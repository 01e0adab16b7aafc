import ZoneFirewall.Proofs.AddressLists
import ZoneFirewall.Proofs.PortRanges

/-!
# What becomes of a packet

A script is read from top to bottom: the first rule that admits a packet decides. Policies decide in
the same way, the first active one that matches.

* `Packet`, `Rule.admits`, `Script.decision`: packets, and what a script does with them.
* `Policy.matchesBy`, `decisionBy`: what policies do with them, given which addresses lie behind a
  reference and which packets belong to a service.
* `Configuration.lets`, `Configuration.serves`: the addresses and packets that rules let through for
  a reference and for a service.
* `rules_any_admits`: **a policy has a rule that admits a packet exactly if the policy matches it.**
* `decision_eq_decisionBy`: **script and policies decide every packet alike.**
-/

namespace ZoneFirewall

open Text

/-- A packet, so far as rules look at it. A packet of ICMP stands for an echo request. -/
structure Packet where
  /-- The chain that it goes through, one for each pair of zones. -/
  chain : String
  /-- Where it comes from. -/
  source : Address
  /-- Where it goes to. -/
  destination : Address
  /-- The protocol. -/
  protocol : WideText
  /-- The source port, which only packets of TCP and UDP use. -/
  sourcePort : Port
  /-- The destination port, which only packets of TCP and UDP use. -/
  destinationPort : Port

/-- What definitions together ask of a packet of their protocol: both of its ports, if it has
ports. -/
def Packet.Fits (q : Packet) (ds : List Definition) : Prop :=
  q.protocol = "tcp" ∨ q.protocol = "udp" →
    Definition.SideAdmits (·.source) q.protocol ds q.sourcePort ∧
      Definition.SideAdmits (·.destination) q.protocol ds q.destinationPort

instance (q : Packet) (ds : List Definition) : Decidable (q.Fits ds) :=
  inferInstanceAs (Decidable (_ → _))

/-! ## Scripts -/

/-- Whether an address is what a rule asks for, with the address lists of the rule's script. -/
def AddressMatch.admits (lists : List ListEntry) (x : Address) : AddressMatch → Bool
  | .any => true
  | .network address => address.contains x
  | .list name => lists.any fun e => e.list = name && e.address.contains x

/-- Whether a rule admits a packet, with the address lists of the rule's script. -/
def Rule.admits (lists : List ListEntry) (q : Packet) (r : Rule) : Bool :=
  r.chain = q.chain
    && r.source.admits lists q.source && r.destination.admits lists q.destination
    && (r.protocol = "" || r.protocol = q.protocol)
    && r.admitsPorts q.sourcePort q.destinationPort

/-- What becomes of a packet: the verdict of the first rule that admits it, and whether it is
logged; `none` if no rule does. -/
def Script.decision (s : Script) (q : Packet) : Option (Verdict × Bool) :=
  (s.rules.find? (Rule.admits s.lists q)).map fun r => (r.verdict, r.log)

section blocks

variable {α β γ : Type} {blocks : α → List β} {hit : β → Bool} {hits : α → Bool} {g : β → γ}
  {g' : α → γ}

/-- The first hit in all blocks is in the first block with a hit. -/
theorem map_find?_flatMap (as : List α) (hhits : ∀ a ∈ as, (blocks a).any hit = hits a)
    (hg : ∀ a, ∀ b ∈ blocks a, g b = g' a) :
    ((as.flatMap blocks).find? hit).map g = (as.find? hits).map g' := by
  induction as with
  | nil => rfl
  | cons a as ih =>
      rw [List.forall_mem_cons] at hhits
      obtain ⟨ha, has⟩ := hhits
      rw [List.flatMap_cons, List.find?_append, List.find?_cons, ← ha]
      rcases hfind : (blocks a).find? hit with _ | b
      · have hnone : (blocks a).any hit = false := by
          rw [List.any_eq_false]
          exact List.find?_eq_none.1 hfind
        rw [hnone, Option.none_or, ih has]
      · have hsome : (blocks a).any hit = true :=
          List.any_eq_true.2 ⟨b, List.mem_of_find?_eq_some hfind, List.find?_some hfind⟩
        rw [hsome, Option.some_or, Option.map_some, Option.map_some,
          hg a b (List.mem_of_find?_eq_some hfind)]

end blocks

/-! ## Policies -/

/-- Whether a policy matches a packet, given which addresses lie behind a reference and which
packets belong to a service. -/
def Policy.matchesBy (behind : Reference → Address → Bool) (belongs : String → Packet → Bool)
    (q : Packet) (p : Policy) : Bool :=
  p.chain = q.chain
    && p.sourceReferences.any (behind · q.source)
    && p.destinationReferences.any (behind · q.destination)
    && p.services.any (belongs · q)

namespace Configuration

variable {c : Configuration} {policies : List Policy} {p : Policy} {q : Packet}

/-- What becomes of a packet: the verdict of the first active policy that matches it, and whether it
is logged; `none` if no policy does. -/
def decisionBy (behind : Reference → Address → Bool) (belongs : String → Packet → Bool)
    (policies : List Policy) (q : Packet) : Option (Verdict × Bool) :=
  ((active policies).find? (Policy.matchesBy behind belongs q)).map fun p =>
    (p.action.verdict, p.log)

/-- Whether an address lies in a network behind a reference. -/
def holds (c : Configuration) (r : Reference) (x : Address) : Bool :=
  (c.entriesOf r).any (·.address.contains x)

/-- Whether the entries are a single one whose address stands for any. -/
def isLifted : List Resolved → Bool
  | [item] => item.address.address = .zero
  | _ => false

/-- Whether rules let an address through for a reference: it lies behind the reference, or nothing
is asked of it. -/
def lets (c : Configuration) (r : Reference) (x : Address) : Bool :=
  isLifted (c.entriesOf r) || c.holds r x

/-- Whether a packet belongs to a service: to the service of every packet, to one without
definitions or with one for every protocol, or to one with the packet's protocol, given which
packets of a protocol fit a definition among others. -/
def belongsBy (c : Configuration) (fits : Packet → List Definition → Definition → Bool)
    (service : String) (q : Packet) : Bool :=
  service = anyService ||
    match c.services.definitions service with
    | .error _ => false
    | .ok ds =>
      ds.isEmpty || ds.any fun d => d.protocol = "" || d.protocol = q.protocol && fits q ds d

/-- Whether rules let a packet through for a service: it belongs to the service, where definitions
count together. -/
def serves (c : Configuration) (service : String) (q : Packet) : Bool :=
  c.belongsBy (fun q ds _ => decide (q.Fits ds)) service q

/-- A packet belongs to a service if the service is for every packet, or has no definitions, or has
one that it fits. -/
theorem belongsBy_iff {fits : Packet → List Definition → Definition → Bool} {service : String} :
    c.belongsBy fits service q = true ↔
      service = anyService ∨ ∃ ds, c.services.definitions service = .ok ds ∧
        (ds = [] ∨ ∃ d ∈ ds, d.protocol = "" ∨ d.protocol = q.protocol ∧ fits q ds d = true) := by
  unfold belongsBy
  rcases c.services.definitions service with e | ds
  · simp
  · simp

/-! ## References and endpoints -/

/-- The network of all addresses has every address. -/
theorem contains_wildcard (x : Address) : Interface.wildcard.contains x = true := by
  have hmask : netmask Interface.wildcard.prefixLength = 0#32 := by decide
  rw [Interface.contains, hmask, BitVec.and_zero, BitVec.and_zero, beq_self_eq_true]

/-- The script's lists hold what is behind each reference that needs one: the entries under its name
are its own. -/
theorem any_list_eq_holds {lists : List ListEntry} {r : Reference} (x : Address)
    (hown : lists.filter (·.list = r.listName) = listEntries r (c.entriesOf r)) :
    (lists.any fun e => e.list = r.listName && e.address.contains x) = c.holds r x := by
  rw [← List.any_filter, hown, listEntries, List.any_map]
  rfl

/-- An endpoint asks for the addresses that its reference lets through. -/
theorem admits_endpoint {lists : List ListEntry} {r : Reference} {e : Endpoint} (x : Address)
    (hown : 2 ≤ (c.entriesOf r).length →
      lists.filter (·.list = r.listName) = listEntries r (c.entriesOf r))
    (he : Endpoint.ofResolved? r (c.entriesOf r) = some e) :
    e.addressMatch.admits lists x = c.lets r x := by
  unfold lets
  rcases hitems : c.entriesOf r with _ | ⟨item, _ | ⟨item', items⟩⟩
  · rw [hitems] at he
    cases he
  · rw [hitems] at he
    cases he
    rw [holds, hitems]
    by_cases hzero : item.address.address = .zero
    · simp [Endpoint.addressMatch, isLifted, hzero, AddressMatch.admits]
    · simp [Endpoint.addressMatch, isLifted, hzero, AddressMatch.admits]
  · have hlong : 2 ≤ (c.entriesOf r).length := by rw [hitems]; simp
    obtain rfl : Endpoint.list r.listName = e := by
      rw [hitems] at he
      exact Option.some.inj he
    exact any_list_eq_holds x (hown hlong)

/-- A reference that lets an address through has an endpoint. -/
theorem exists_endpoint {r : Reference} {x : Address} (h : c.lets r x = true) :
    ∃ e, Endpoint.ofResolved? r (c.entriesOf r) = some e := by
  unfold lets holds at h
  rcases hitems : c.entriesOf r with _ | ⟨item, _ | ⟨item', items⟩⟩
  · rw [hitems] at h
    cases h
  · exact ⟨_, rfl⟩
  · exact ⟨_, rfl⟩

/-- **Some endpoint of some references asks for an address exactly if one of them lets it
through.** -/
theorem exists_endpointsOf_admits {lists : List ListEntry} {refs : List Reference} (x : Address)
    (hown : ∀ r ∈ refs, 2 ≤ (c.entriesOf r).length →
      lists.filter (·.list = r.listName) = listEntries r (c.entriesOf r)) :
    (∃ e ∈ c.endpointsOf refs, e.addressMatch.admits lists x = true) ↔
      ∃ r ∈ refs, c.lets r x = true := by
  constructor
  · rintro ⟨e, he, hx⟩
    obtain ⟨r, hr, hof⟩ := mem_endpointsOf.1 he
    rw [admits_endpoint x (hown r hr) hof] at hx
    exact ⟨r, hr, hx⟩
  · rintro ⟨r, hr, hx⟩
    obtain ⟨e, hof⟩ := exists_endpoint hx
    refine ⟨e, mem_endpointsOf.2 ⟨r, hr, hof⟩, ?_⟩
    rw [admits_endpoint x (hown r hr) hof, hx]

/-! ## Services and passes -/

/-- A protocol without ports leaves a rule without ports. -/
theorem admitsPorts_rule_of_no_ports {protocol : WideText} {ds : List Definition}
    {source destination : Endpoint} {sp dp : Port}
    (hports : ¬ (protocol = "tcp" ∨ protocol = "udp")) :
    (rule p ds protocol source destination).admitsPorts sp dp = true := by
  simp [rule, portRanges, Rule.admitsPorts, PortRange.admits, hports]

/-- A rule for a protocol asks of a packet's protocol and ports what the definitions do. -/
theorem admits_rule_pass {protocol : WideText} {ds : List Definition}
    {source destination : Endpoint} :
    ((protocol = "" ∨ protocol = q.protocol) ∧
      (rule p ds protocol source destination).admitsPorts q.sourcePort q.destinationPort = true) ↔
      protocol = "" ∨ protocol = q.protocol ∧ q.Fits ds := by
  unfold Packet.Fits
  by_cases hempty : protocol = ""
  · have hports : ¬ (protocol = "tcp" ∨ protocol = "udp") := by
      subst hempty
      decide
    simp [hempty, admitsPorts_rule_of_no_ports (hempty ▸ hports)]
  · by_cases hp : protocol = q.protocol
    · subst hp
      by_cases hports : q.protocol = "tcp" ∨ q.protocol = "udp"
      · simp only [hempty, false_or, true_and, hports, admitsPorts_rule hports, true_implies]
      · simp [hempty, hports, admitsPorts_rule_of_no_ports hports]
    · simp [hempty, hp]

/-- **A service has a pass for a packet exactly if the packet belongs to it.** -/
theorem exists_pass_iff_serves {policy : Int} {service : String}
    (h : c.servicePasses policy service = .ok (c.passesOf policy service)) :
    (∃ protocol ∈ (c.passesOf policy service).1,
      protocol = "" ∨ protocol = q.protocol ∧ q.Fits (c.passesOf policy service).2) ↔
      c.serves service q = true := by
  rw [serves, belongsBy_iff]
  by_cases hany : service = anyService
  · subst hany
    have hpasses : c.passesOf policy anyService = ([WideText.ofString ""], []) :=
      passesOf_of_servicePasses rfl
    simp [hpasses]
  · obtain ⟨ds, hds, hpasses⟩ := (servicePasses_eq_ok hany).1 h
    simp only [hpasses, hds, hany, false_or, Except.ok.injEq, exists_eq_left', decide_eq_true_eq,
      mem_protocolsOf]
    constructor
    · rintro ⟨protocol, (⟨hnil, -⟩ | ⟨d, hd, rfl⟩), hpass⟩
      · exact .inl hnil
      · exact .inr ⟨d, hd, hpass⟩
    · rintro (hnil | ⟨d, hd, hpass⟩)
      · exact ⟨"", .inl ⟨hnil, rfl⟩, .inl rfl⟩
      · exact ⟨d.protocol, .inr ⟨d, hd, rfl⟩, hpass⟩

/-! ## Rules and policies -/

/-- **A policy has a rule that admits a packet exactly if the policy matches it.** -/
theorem rules_any_admits {lists : List ListEntry} (hc : c.Compiles p)
    (hown : ∀ r ∈ p.references, 2 ≤ (c.entriesOf r).length →
      lists.filter (·.list = r.listName) = listEntries r (c.entriesOf r)) :
    (c.rulesOf p).any (Rule.admits lists q) = p.matchesBy c.lets c.serves q := by
  have hsources := exists_endpointsOf_admits q.source
    fun r hr => hown r (List.mem_append_left p.destinationReferences hr)
  have hdestinations := exists_endpointsOf_admits q.destination
    fun r hr => hown r (List.mem_append_right p.sourceReferences hr)
  rw [Bool.eq_iff_iff]
  simp only [List.any_eq_true, mem_rulesOf, Policy.matchesBy, Bool.and_eq_true, decide_eq_true_eq]
  rw [← hsources, ← hdestinations]
  constructor
  · rintro ⟨_, ⟨service, hservice, protocol, hprotocol, source, hsource, destination,
      hdestination, rfl⟩, hadmits⟩
    simp only [Rule.admits, Bool.and_eq_true, Bool.or_eq_true, decide_eq_true_eq] at hadmits
    obtain ⟨⟨⟨⟨hchain, hx⟩, hy⟩, hq⟩, hports⟩ := hadmits
    refine ⟨⟨⟨hchain, source, hsource, hx⟩, destination, hdestination, hy⟩, service, hservice, ?_⟩
    rw [← exists_pass_iff_serves (hc.services service hservice)]
    exact ⟨protocol, hprotocol, admits_rule_pass.1 ⟨hq, hports⟩⟩
  · rintro ⟨⟨⟨hchain, source, hsource, hx⟩, destination, hdestination, hy⟩, service, hservice,
      hserves⟩
    rw [← exists_pass_iff_serves (hc.services service hservice)] at hserves
    obtain ⟨protocol, hprotocol, hpass⟩ := hserves
    have hq : _ ∧ (rule p _ protocol source destination).admitsPorts q.sourcePort
      q.destinationPort = true := admits_rule_pass.2 hpass
    refine ⟨_, ⟨service, hservice, protocol, hprotocol, source, hsource, destination,
      hdestination, rfl⟩, ?_⟩
    simp only [Rule.admits, Bool.and_eq_true, Bool.or_eq_true, decide_eq_true_eq]
    exact ⟨⟨⟨⟨hchain, hx⟩, hy⟩, hq.1⟩, hq.2⟩

/-- All rules of a policy have its verdict and log alike. -/
theorem verdict_of_mem_rulesOf {r : Rule} (h : r ∈ c.rulesOf p) :
    (r.verdict, r.log) = (p.action.verdict, p.log) := by
  obtain ⟨service, -, protocol, -, source, -, destination, -, rfl⟩ := mem_rulesOf.1 h
  rfl

/-- **Script and policies decide alike**, if no two references share a list. -/
theorem decision_eq_decisionBy {script : Script} (h : c.compile policies = .ok script)
    (hnone : script.diagnostics.countP (·.problem.isSharedList) = 0) (q : Packet) :
    script.decision q = decisionBy c.lets c.serves policies q := by
  obtain ⟨hall, rfl⟩ := compile_eq_ok.1 h
  have hl := listsInvariant_listsOf c policies
  rw [Script.decision, rules_scriptOf, decisionBy]
  apply map_find?_flatMap
  · intro p hp
    apply rules_any_admits (hall p hp)
    intro r hr hlong
    have hactive : r ∈ activeReferences policies := List.mem_flatMap.2 ⟨p, hp, hr⟩
    exact hl.filter_entries hnone (mem_listReferences.2 ⟨hactive, hlong⟩)
  · intro p r hr
    exact verdict_of_mem_rulesOf hr

end Configuration

end ZoneFirewall
