import Mathlib.Data.List.Find
import Mathlib.Logic.Basic
import ZoneFirewall.Proofs.FirstMatch

/-!
# When scripts do what policies say

Script and policies decide every packet alike if references and services are read as rules read
them. Policies say something else: a reference means its networks, and a service its definitions,
each by itself.

* `Configuration.IsFaithful`: every script decides as its policies do under a given reading.
* `Configuration.HasNoLowNetwork`: what references need for that; `decision_of_low_network`: a
  policy for a reference without it lets packets pass that it does not match.
* `Configuration.servesByOne`, `Configuration.HasSeparateServices`: the reading of services
  definition by definition, and what services need for that.
* `isFaithful_iff_networks`: **scripts are faithful to the networks of references exactly if no
  reference comes to a single network that starts at `0.0.0.0` and is not that of all addresses**,
  and to single definitions exactly if services are separate as well.
-/

namespace ZoneFirewall

open Text

/-- What one definition asks of a packet of its protocol: both of its ports, if it has ports. -/
def Packet.FitsOne (q : Packet) (d : Definition) : Prop :=
  q.protocol = "tcp" ∨ q.protocol = "udp" →
    d.source.contains q.sourcePort.val = true ∧ d.destination.contains q.destinationPort.val = true

instance (q : Packet) (d : Definition) : Decidable (q.FitsOne d) :=
  inferInstanceAs (Decidable (_ → _))

namespace Configuration

variable {c : Configuration} {policies : List Policy} {q : Packet}

/-- Every script without shared lists decides every packet as its policies do, if addresses lie
behind references and packets belong to services as given. -/
def IsFaithful (c : Configuration) (behind : Reference → Address → Bool)
    (belongs : String → Packet → Bool) : Prop :=
  ∀ policies script, c.compile policies = .ok script →
    script.diagnostics.countP (·.problem.isSharedList) = 0 →
      ∀ q, script.decision q = decisionBy behind belongs policies q

/-- Readings that agree on what compiles decide alike. -/
theorem decisionBy_congr {behind behind' : Reference → Address → Bool}
    {belongs belongs' : String → Packet → Bool} (hall : ∀ p ∈ active policies, c.Compiles p)
    (hbehind : ∀ r, c.resolve r = .ok (c.entriesOf r) → ∀ x, behind r x = behind' r x)
    (hbelongs : ∀ service, belongs service q = belongs' service q) :
    decisionBy behind belongs policies q = decisionBy behind' belongs' policies q := by
  have hmatches : ∀ p ∈ active policies,
      p.matchesBy behind belongs q = p.matchesBy behind' belongs' q := by
    intro p hp
    have hany : ∀ refs, refs ⊆ p.references →
        ∀ x, refs.any (behind · x) = refs.any (behind' · x) := by
      intro refs hrefs x
      rw [Bool.eq_iff_iff, List.any_eq_true, List.any_eq_true]
      refine exists_congr fun r => and_congr_right fun hr => ?_
      rw [hbehind r ((hall p hp).references r (hrefs hr))]
    rw [Policy.matchesBy, Policy.matchesBy, hany _ (List.subset_append_left _ _),
      hany _ (List.subset_append_right _ _)]
    simp only [hbelongs]
  rw [decisionBy, decisionBy, List.find?_congr hmatches]

/-! ## One policy and one packet -/

/-- A packet between the zones of a policy from a reference to anywhere. -/
def packetFrom (zone : String) (source : Address) (protocol : WideText) (sp dp : Port) :
    Packet where
  chain := joinNames zone "Untrust"
  source := source
  destination := .ofOctets 192 0 2 1
  protocol := protocol
  sourcePort := sp
  destinationPort := dp

/-- A policy for everything that comes from a reference lets through what comes from it, and nothing
else. -/
theorem decisionBy_passToAny {behind : Reference → Address → Bool}
    {belongs : String → Packet → Bool} {r : Reference} {service : String} {x : Address}
    {protocol : WideText} {sp dp : Port} (hany : ∀ y, behind ⟨"Untrust", "any"⟩ y = true) :
    decisionBy behind belongs [passToAny r service] (packetFrom r.zone x protocol sp dp)
      = if behind r x && belongs service (packetFrom r.zone x protocol sp dp)
        then some (.accept, false) else none := by
  have hmatches :
      (passToAny r service).matchesBy behind belongs (packetFrom r.zone x protocol sp dp)
        = (behind r x && belongs service (packetFrom r.zone x protocol sp dp)) := by
    simp [Policy.matchesBy, Policy.chain, Policy.sourceReferences, Policy.destinationReferences,
      passToAny, packetFrom, hany]
  rw [decisionBy, active_passToAny, List.find?_cons, hmatches]
  rcases behind r x && belongs service (packetFrom r.zone x protocol sp dp) with _ | _
  · rfl
  · rfl

/-- Every address is behind `any`. -/
theorem holds_any (zone : String) (x : Address) : c.holds ⟨zone, "any"⟩ x = true := by
  rw [holds, entriesOf_of_resolve _ _ (resolve_any zone), List.any_cons, contains_wildcard,
    Bool.true_or]

/-- What is behind a reference is let through for it. -/
theorem lets_of_holds {r : Reference} {x : Address} (h : c.holds r x = true) :
    c.lets r x = true := by
  rw [lets, h, Bool.or_true]

/-- A policy for a reference that comes to one entry needs no list. -/
theorem countP_sharedList_passToAny {r : Reference} {item : Resolved}
    (hr : c.resolve r = .ok [item]) (service : String) :
    (c.scriptOf [passToAny r service]).diagnostics.countP (·.problem.isSharedList) = 0 := by
  have hrefs : c.listReferences (activeReferences [passToAny r service]) = [] := by
    rw [List.eq_nil_iff_forall_not_mem]
    intro r' hr'
    rw [mem_listReferences, activeReferences, active_passToAny, List.flatMap_singleton,
      references_passToAny] at hr'
    obtain ⟨hmem, hlong⟩ := hr'
    rcases List.mem_pair.1 hmem with rfl | rfl
    · rw [entriesOf_of_resolve _ _ hr] at hlong
      simp at hlong
    · rw [entriesOf_of_resolve _ _ (resolve_any _)] at hlong
      simp at hlong
  have hcount := (listsInvariant_listsOf c [passToAny r service]).shared
  rw [hrefs, List.map_nil, List.toFinset_nil, Finset.card_empty, Nat.add_zero] at hcount
  exact hcount

/-! ## References -/

/-- No reference comes to a single network that starts at `0.0.0.0`, that of all addresses apart. -/
def HasNoLowNetwork (c : Configuration) : Prop :=
  ∀ r item, c.resolve r = .ok [item] → item.address.address = .zero → item.address = .wildcard

/-- The highest address lies in no network that starts at `0.0.0.0`, that of all addresses apart. -/
theorem not_contains_of_ne_wildcard {address : Interface} (hzero : address.address = .zero)
    (hne : address ≠ .wildcard) : address.contains (.ofOctets 255 255 255 255) = false := by
  have hlengths : ∀ k : Fin 33, (⟨.zero, k⟩ : Interface) ≠ .wildcard →
      (⟨.zero, k⟩ : Interface).contains (.ofOctets 255 255 255 255) = false := by decide
  obtain ⟨start, k⟩ := address
  obtain rfl : start = .zero := hzero
  exact hlengths k hne

/-- Where there is no such network, rules let through what lies behind the reference. -/
theorem HasNoLowNetwork.lets_eq_holds (hlow : c.HasNoLowNetwork) {r : Reference}
    (hr : c.resolve r = .ok (c.entriesOf r)) (x : Address) : c.lets r x = c.holds r x := by
  unfold lets
  rcases hitems : c.entriesOf r with _ | ⟨item, _ | ⟨item', items⟩⟩
  · rfl
  · rw [holds, hitems]
    by_cases hzero : item.address.address = .zero
    · rw [hitems] at hr
      rw [List.any_cons, hlow r item hr hzero, contains_wildcard, Bool.true_or, Bool.or_true]
    · simp [isLifted, hzero]
  · rfl

/-- **A single network that starts at `0.0.0.0` is taken for all addresses**: a policy that permits
traffic from it lets a packet from `255.255.255.255` pass, which the policy does not match. -/
theorem decision_of_low_network {r : Reference} {item : Resolved} (hr : c.resolve r = .ok [item])
    (hzero : item.address.address = .zero) (hne : item.address ≠ .wildcard) :
    let q := packetFrom r.zone (.ofOctets 255 255 255 255) "tcp" 1024 80
    ∃ script, c.compile [passToAny r anyService] = .ok script ∧
      script.diagnostics.countP (·.problem.isSharedList) = 0 ∧
      script.decision q = some (.accept, false) ∧
      ∀ belongs, decisionBy c.holds belongs [passToAny r anyService] q = none := by
  intro q
  have hitem := entriesOf_of_resolve r _ hr
  have hc : c.compile [passToAny r anyService] = .ok _ := compile_passToAny hr rfl
  have hshared := countP_sharedList_passToAny hr anyService
  have hlifted : c.lets r (.ofOctets 255 255 255 255) = true := by
    rw [lets, hitem, isLifted, decide_eq_true hzero, Bool.true_or]
  have hout : c.holds r (.ofOctets 255 255 255 255) = false := by
    rw [holds, hitem, List.any_cons, not_contains_of_ne_wildcard hzero hne]
    rfl
  refine ⟨_, hc, hshared, ?_, fun belongs => ?_⟩
  · rw [decision_eq_decisionBy hc hshared,
      decisionBy_passToAny fun y => lets_of_holds (holds_any "Untrust" y), hlifted]
    rfl
  · rw [decisionBy_passToAny (holds_any "Untrust"), hout]
    rfl

/-! ## Services -/

/-- Whether a packet belongs to a service, where each definition counts by itself. -/
def servesByOne (c : Configuration) (service : String) (q : Packet) : Bool :=
  c.belongsBy (fun q _ d => decide (q.FitsOne d)) service q

/-- The definitions of each service with ports admit together what they admit one by one, unless one
of them is for every protocol. -/
def HasSeparateServices (c : Configuration) : Prop :=
  ∀ (service : String) ds, service ≠ anyService → c.services.definitions service = .ok ds →
    (∀ d ∈ ds, d.protocol ≠ "") →
      ∀ protocol : WideText, protocol = "tcp" ∨ protocol = "udp" →
        (∃ d ∈ ds, d.protocol = protocol) → ∀ sp dp,
          (Definition.SideAdmits (·.source) protocol ds sp ∧
              Definition.SideAdmits (·.destination) protocol ds dp) ↔
            Definition.AnyAdmits protocol ds sp dp

/-- A packet without ports fits definitions together if it fits one of them. -/
theorem fits_iff_exists_fitsOne {ds : List Definition}
    (hsides : q.protocol = "tcp" ∨ q.protocol = "udp" → (∃ d ∈ ds, d.protocol = q.protocol) →
      ((Definition.SideAdmits (·.source) q.protocol ds q.sourcePort ∧
          Definition.SideAdmits (·.destination) q.protocol ds q.destinationPort) ↔
        Definition.AnyAdmits q.protocol ds q.sourcePort q.destinationPort)) :
    (∃ d ∈ ds, d.protocol = q.protocol ∧ q.Fits ds) ↔
      ∃ d ∈ ds, d.protocol = q.protocol ∧ q.FitsOne d := by
  unfold Packet.Fits Packet.FitsOne
  by_cases hports : q.protocol = "tcp" ∨ q.protocol = "udp"
  · simp only [hports, true_implies]
    constructor
    · rintro ⟨d, hd, hp, hfits⟩
      exact (hsides hports ⟨d, hd, hp⟩).1 hfits
    · rintro ⟨d, hd, hp, hone⟩
      exact ⟨d, hd, hp, (hsides hports ⟨d, hd, hp⟩).2 ⟨d, hd, hp, hone⟩⟩
  · simp only [hports, false_implies]

/-- Where services are separate, both readings of them are the same. -/
theorem HasSeparateServices.serves_eq (hsep : c.HasSeparateServices) (service : String)
    (q : Packet) : c.serves service q = c.servesByOne service q := by
  rw [Bool.eq_iff_iff, serves, servesByOne, belongsBy_iff, belongsBy_iff]
  by_cases hany : service = anyService
  · simp only [hany, true_or]
  · refine or_congr_right (exists_congr fun ds => and_congr_right fun hds => or_congr_right ?_)
    simp only [decide_eq_true_eq]
    by_cases hempty : ∃ d ∈ ds, d.protocol = ""
    · -- a definition for every protocol admits every packet under both
      obtain ⟨d, hd, hp⟩ := hempty
      exact iff_of_true ⟨d, hd, .inl hp⟩ ⟨d, hd, .inl hp⟩
    · have hnone : ∀ d ∈ ds, d.protocol ≠ "" := fun d hd hp => hempty ⟨d, hd, hp⟩
      have hdrop : ∀ F : Definition → Prop,
          (∃ d ∈ ds, d.protocol = "" ∨ F d) ↔ ∃ d ∈ ds, F d := fun F =>
        exists_congr fun d => and_congr_right fun hd => or_iff_right (hnone d hd)
      rw [hdrop, hdrop]
      exact fits_iff_exists_fitsOne fun hports hex =>
        hsep service ds hany hds hnone q.protocol hports hex q.sourcePort q.destinationPort

/-- A packet of a protocol with ports belongs to a service exactly as the two readings say. -/
theorem serves_of_definitions {service : String} {ds : List Definition} {protocol : WideText}
    (zone : String) (x : Address) (sp dp : Port) (hany : service ≠ anyService)
    (hds : c.services.definitions service = .ok ds) (hnone : ∀ d ∈ ds, d.protocol ≠ "")
    (hports : protocol = "tcp" ∨ protocol = "udp") (hex : ∃ d ∈ ds, d.protocol = protocol) :
    (c.serves service (packetFrom zone x protocol sp dp) = true ↔
      Definition.SideAdmits (·.source) protocol ds sp ∧
        Definition.SideAdmits (·.destination) protocol ds dp) ∧
    (c.servesByOne service (packetFrom zone x protocol sp dp) = true ↔
      Definition.AnyAdmits protocol ds sp dp) := by
  have hne : ds ≠ [] := by
    rintro rfl
    simp at hex
  rw [serves, servesByOne, belongsBy_iff, belongsBy_iff]
  simp only [hany, hds, hne, false_or, Except.ok.injEq, exists_eq_left', decide_eq_true_eq]
  constructor
  · constructor
    · rintro ⟨d, hd, hp | ⟨-, hfits⟩⟩
      · exact absurd hp (hnone d hd)
      · exact hfits hports
    · intro hsides
      obtain ⟨d, hd, hp⟩ := hex
      exact ⟨d, hd, .inr ⟨hp, fun _ => hsides⟩⟩
  · constructor
    · rintro ⟨d, hd, hp | ⟨hp, hone⟩⟩
      · exact absurd hp (hnone d hd)
      · exact ⟨d, hd, hp, hone hports⟩
    · rintro ⟨d, hd, hp, hone⟩
      exact ⟨d, hd, .inr ⟨hp, fun _ => hone⟩⟩

/-! ## Faithfulness -/

/-- A faithful configuration has no network in the place of all addresses. -/
theorem IsFaithful.hasNoLowNetwork {belongs : String → Packet → Bool}
    (h : c.IsFaithful c.holds belongs) : c.HasNoLowNetwork := by
  intro r item hr hzero
  by_contra hne
  obtain ⟨script, hc, hnone, haccept, hmatch⟩ := decision_of_low_network hr hzero hne
  rw [h _ _ hc hnone, hmatch] at haccept
  cases haccept

/-- Its services are separate. -/
theorem IsFaithful.hasSeparateServices (h : c.IsFaithful c.holds c.servesByOne) :
    c.HasSeparateServices := by
  intro service ds hany hds hnone protocol hports hex sp dp
  have hanywhere : ∀ y, c.lets ⟨"Untrust", "any"⟩ y = true := fun y =>
    lets_of_holds (holds_any "Untrust" y)
  have hc : c.compile [passToAny ⟨"Trust", "any"⟩ service] = .ok _ :=
    compile_passToAny (resolve_any "Trust") ((servicePasses_eq_ok hany).2 ⟨ds, hds, rfl⟩)
  have hshared := countP_sharedList_passToAny (c := c) (resolve_any "Trust") service
  -- a policy for the service alone, and a packet with just these ports
  obtain ⟨htogether, hone⟩ := serves_of_definitions "Trust" .zero sp dp hany hds hnone hports hex
  rw [← htogether, ← hone]
  generalize hq : packetFrom "Trust" .zero protocol sp dp = q
  have hsame : (if c.serves service q then some (Verdict.accept, false) else none)
      = if c.servesByOne service q then some (Verdict.accept, false) else none := by
    have hdecide := h _ _ hc hshared q
    rw [decision_eq_decisionBy hc hshared, ← hq,
      decisionBy_passToAny hanywhere, decisionBy_passToAny (holds_any "Untrust"),
      lets_of_holds (holds_any "Trust" _), holds_any, Bool.true_and, Bool.true_and] at hdecide
    rwa [← hq]
  rcases hserves : c.serves service q with _ | _
  · rcases hserves' : c.servesByOne service q with _ | _
    · rfl
    · rw [hserves, hserves'] at hsame
      cases hsame
  · rcases hserves' : c.servesByOne service q with _ | _
    · rw [hserves, hserves'] at hsame
      cases hsame
    · rfl

/-- **When scripts decide as policies say.** If no two references share a list, script and policies
decide every packet alike, as references and services are read by rules: the first rule that admits
the packet has verdict and log of the first active policy that matches it, and no rule admits a
packet that no policy matches. With the networks of references as they are, this holds of all
policies exactly if no reference comes to a single network that starts at `0.0.0.0` and is not that
of all addresses. If, moreover, services are read definition by definition, it holds exactly if
services are separate as well. -/
theorem isFaithful_iff_networks (c : Configuration) :
    c.IsFaithful c.lets c.serves ∧ (c.IsFaithful c.holds c.serves ↔ c.HasNoLowNetwork) ∧
      (c.IsFaithful c.holds c.servesByOne ↔ c.HasNoLowNetwork ∧ c.HasSeparateServices) := by
  refine ⟨fun policies script hc hnone q => decision_eq_decisionBy hc hnone q,
    ⟨fun h => h.hasNoLowNetwork, ?_⟩, ⟨fun h => ⟨h.hasNoLowNetwork, h.hasSeparateServices⟩, ?_⟩⟩
  · intro hlow policies script hc hnone q
    rw [decision_eq_decisionBy hc hnone]
    exact decisionBy_congr (compile_eq_ok.1 hc).1 (fun r hr => hlow.lets_eq_holds hr)
      fun _ => rfl
  · rintro ⟨hlow, hsep⟩ policies script hc hnone q
    rw [decision_eq_decisionBy hc hnone]
    exact decisionBy_congr (compile_eq_ok.1 hc).1 (fun r hr => hlow.lets_eq_holds hr)
      fun service => hsep.serves_eq service q

/-- A zone whose only network is `0.0.0.0/8`. -/
def lowNetwork : Configuration where
  objects := AddressBook.empty.add "Trust" "low" ⟨.zero, ⟨8, by decide⟩⟩ ""

/-- A policy that permits traffic from `0.0.0.0/8` lets a packet from `255.255.255.255` pass. -/
theorem decision_lowNetwork :
    let q := packetFrom "Trust" (.ofOctets 255 255 255 255) "tcp" 1024 80
    ∃ script, lowNetwork.compile [passToAny ⟨"Trust", "low"⟩ "ANY"] = .ok script ∧
      script.diagnostics.countP (·.problem.isSharedList) = 0 ∧
      script.decision q = some (.accept, false) ∧
      ∀ belongs,
        decisionBy lowNetwork.holds belongs [passToAny ⟨"Trust", "low"⟩ "ANY"] q = none := by
  have hlow : lowNetwork.objects.get? "Trust" "low" = some (.plain ⟨.zero, ⟨8, by decide⟩⟩ "") := by
    simp [lowNetwork]
  have hr : lowNetwork.resolve ⟨"Trust", "low"⟩ = .ok [⟨"low", ⟨.zero, ⟨8, by decide⟩⟩⟩] := by
    rw [resolve, AddressBook.resolve_of_flattens (.plain ⟨by decide, rfl⟩ hlow rfl rfl .nil)]
    rfl
  exact decision_of_low_network hr rfl (by decide)

end Configuration

end ZoneFirewall
