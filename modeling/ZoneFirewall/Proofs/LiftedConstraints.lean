import ZoneFirewall.Proofs.Faithfulness
import ZoneFirewall.Proofs.RequiredRules

/-!
# What lifts the constraint of a rule

A side of a rule without an address field admits every address, which is what the network of all
addresses asks for. The fields of a rule are followed here from the reference that a side is for to
the printed statement.

* `Side`, `Side.addressFields`: the sides of a rule, and the fields that ask something of the
  address on a side. `addressFields_eq`: they are those of the side's `AddressMatch`.
* `Configuration.IsRuleFor`: the rules that a policy has for references. `mem_rules_iff`: a script
  has these rules and no others.
* `Configuration.fieldsFor`: the address fields for a reference, by what the reference comes to.
* `liftsOnlyWildcard_iff`: **nothing but the network of all addresses lifts a constraint exactly if
  no reference comes to another single network that starts at `0.0.0.0`.**
-/

namespace ZoneFirewall

open Text

/-! ## Sides -/

/-- The sides of a rule. -/
inductive Side where
  /-- Where packets come from. -/
  | source
  /-- Where packets go to. -/
  | destination
  deriving DecidableEq, Repr

namespace Side

/-- The word that the fields for a side start with. -/
def word : Side → String
  | .source => "src"
  | .destination => "dst"

/-- The one or the other, by the side. -/
def choose {α : Type} (source destination : α) : Side → α
  | .source => source
  | .destination => destination

/-- What a rule asks of the address on a side. -/
def asked (r : Rule) : Side → AddressMatch := choose r.source r.destination

/-- The field asks something of the address on the side. -/
def asks (side : Side) (field : String) : Bool :=
  (side.word ++ "-address=").toList.isPrefixOf field.toList
    || (side.word ++ "-address-list=").toList.isPrefixOf field.toList

/-- The fields of a rule that ask something of the address on a side. -/
def addressFields (side : Side) (r : Rule) : List String := r.fields.filter side.asks

/-- All fields of a side ask for it. -/
theorem filter_fields_self (side : Side) (m : AddressMatch) :
    (m.fields side.word).filter side.asks = m.fields side.word := by
  rcases m with _ | address | name
  · rfl
  · cases side with
    | source => simp [AddressMatch.fields, asks, word, List.isPrefixOf]
    | destination => simp [AddressMatch.fields, asks, word, List.isPrefixOf]
  · cases side with
    | source => simp [AddressMatch.fields, asks, word, List.isPrefixOf]
    | destination => simp [AddressMatch.fields, asks, word, List.isPrefixOf]

/-- Fields for one side ask nothing of the address on another. -/
theorem filter_fields_of_ne (side other : Side) (h : other ≠ side) (m : AddressMatch) :
    (m.fields other.word).filter side.asks = [] := by
  rcases m with _ | address | name
  · rfl
  · cases side <;> cases other <;> simp_all [AddressMatch.fields, asks, word, List.isPrefixOf]
  · cases side <;> cases other <;> simp_all [AddressMatch.fields, asks, word, List.isPrefixOf]

/-- A field that starts otherwise asks nothing of addresses. -/
theorem filter_portFields (side other : Side) (ranges : List PortRange) :
    (portFields other.word ranges).filter side.asks = [] := by
  unfold portFields
  split
  · rfl
  · cases side <;> cases other <;> simp [asks, word, List.isPrefixOf]

/-- The field for the protocol asks for neither side. -/
theorem filter_protocolFields (side : Side) (r : Rule) :
    r.protocolFields.filter side.asks = [] := by
  have hprotocol : (if r.protocol = "" then [] else ["protocol=" ++ r.protocol.joined]).filter
      side.asks = [] := by
    split
    · rfl
    · cases side <;> simp [asks, word, List.isPrefixOf]
  have hicmp : (if r.protocol = "icmp" then ["icmp-options=" ++ icmpEchoOptions] else []).filter
      side.asks = [] := by
    split
    · cases side <;> decide
    · rfl
  have hsource : (portFields "src" r.sourcePorts).filter side.asks = [] :=
    filter_portFields side .source r.sourcePorts
  have hdestination : (portFields "dst" r.destinationPorts).filter side.asks = [] :=
    filter_portFields side .destination r.destinationPorts
  rw [Rule.protocolFields, List.filter_append, List.filter_append, List.filter_append, hprotocol,
    hicmp, hsource, hdestination]
  rfl

/-- The address fields of a side are those of what the rule asks there. -/
theorem addressFields_eq (side : Side) (r : Rule) :
    side.addressFields r = (asked r side).fields side.word := by
  have hchain : ["chain=" ++ r.chain].filter side.asks = [] := by
    cases side <;> simp [asks, word, List.isPrefixOf]
  have haction : ["action=" ++ r.verdict.word].filter side.asks = [] := by
    cases side <;> simp [asks, word, List.isPrefixOf]
  have hlog : (if r.log then ["log=yes"] else []).filter side.asks = [] := by
    split
    · cases side <;> decide
    · rfl
  rw [addressFields, Rule.fields]
  simp only [List.filter_append, hchain, haction, hlog, filter_protocolFields, List.nil_append,
    List.append_nil]
  cases side with
  | source =>
      have hself : (r.source.fields "src").filter source.asks = r.source.fields "src" :=
        filter_fields_self source r.source
      have hother : (r.destination.fields "dst").filter source.asks = [] :=
        filter_fields_of_ne source destination (by decide) r.destination
      rw [hself, hother, List.append_nil]
      rfl
  | destination =>
      have hother : (r.source.fields "src").filter destination.asks = [] :=
        filter_fields_of_ne destination source (by decide) r.source
      have hself : (r.destination.fields "dst").filter destination.asks
          = r.destination.fields "dst" := filter_fields_self destination r.destination
      rw [hother, hself, List.nil_append]
      rfl

end Side

/-- The references of a policy on a side. -/
def Policy.referencesAt (p : Policy) : Side → List Reference :=
  Side.choose p.sourceReferences p.destinationReferences

namespace Configuration

variable {c : Configuration} {policies : List Policy} {p : Policy} {refs : Side → Reference}
  {r : Rule}

/-! ## Rules for references -/

/-- The policy has the rule for the references, one on each side: it is for one of its services, a
protocol of that service, and what the references come to. -/
structure IsRuleFor (c : Configuration) (p : Policy) (refs : Side → Reference) (r : Rule) :
    Prop where
  /-- The policy names the references. -/
  named : ∀ side, refs side ∈ p.referencesAt side
  /-- The rule is made for them. -/
  made : ∃ service ∈ p.services, ∃ protocol ∈ c.passProtocols service, ∃ ends : Side → Endpoint,
    (∀ side, Endpoint.ofResolved? (refs side) (c.entriesOf (refs side)) = some (ends side)) ∧
      rule p (c.definitionsFor service) protocol (ends .source) (ends .destination) = r

/-- The rules of a policy that compiles are those for its references. -/
theorem mem_rulesOf_iff (hc : c.Compiles p) :
    r ∈ c.rulesOf p ↔ ∃ refs, c.IsRuleFor p refs r := by
  rw [mem_rulesOf]
  constructor
  · rintro ⟨service, hservice, protocol, hprotocol, source, hsource, destination, hdestination,
      hrule⟩
    rw [passesOf_eq_passProtocols (hc.services service hservice)] at hprotocol hrule
    obtain ⟨s, hs, hsends⟩ := mem_endpointsOf.1 hsource
    obtain ⟨d, hd, hdends⟩ := mem_endpointsOf.1 hdestination
    refine ⟨Side.choose s d, ?_, service, hservice, protocol, hprotocol,
      Side.choose source destination, ?_, hrule⟩
    · rintro (_ | _)
      · exact hs
      · exact hd
    · rintro (_ | _)
      · exact hsends
      · exact hdends
  · rintro ⟨refs, hnamed, service, hservice, protocol, hprotocol, ends, hends, hrule⟩
    refine ⟨service, hservice, protocol, ?_, ends .source, ?_, ends .destination, ?_, ?_⟩
    · rwa [passesOf_eq_passProtocols (hc.services service hservice)]
    · exact mem_endpointsOf.2 ⟨refs .source, hnamed .source, hends .source⟩
    · exact mem_endpointsOf.2 ⟨refs .destination, hnamed .destination, hends .destination⟩
    · rwa [passesOf_eq_passProtocols (hc.services service hservice)]

/-- **A script has the rules of active policies for their references, and no others.** -/
theorem mem_rules_iff {script : Script} (h : c.compile policies = .ok script) :
    r ∈ script.rules ↔ ∃ p ∈ active policies, ∃ refs, c.IsRuleFor p refs r := by
  obtain ⟨hall, rfl⟩ := compile_eq_ok.1 h
  rw [rules_scriptOf, List.mem_flatMap]
  exact exists_congr fun p => and_congr_right fun hp => mem_rulesOf_iff (hall p hp)

/-! ## Fields for references -/

/-- The address fields for a reference on a side, by what the reference comes to: none for a single
address that starts at `0.0.0.0`, any other single address as it is stored, and a list for
several. -/
def fieldsFor (c : Configuration) (side : Side) (ref : Reference) : List String :=
  match c.entriesOf ref with
  | [] => []
  | [item] =>
    if item.address.address = .zero then [] else [side.word ++ "-address=" ++ item.address.text]
  | _ => [side.word ++ "-address-list=" ++ ref.listName]

/-- A reference to one address has one field for it, and none if its bits are all zero. -/
theorem fieldsFor_of_resolve {ref : Reference} {item : Resolved} (side : Side)
    (h : c.resolve ref = .ok [item]) :
    c.fieldsFor side ref
      = if item.address.address = .zero then []
        else [side.word ++ "-address=" ++ item.address.text] := by
  rw [fieldsFor, entriesOf_of_resolve _ _ h]

/-- The endpoint of a reference is printed as the fields for the reference. -/
theorem fields_addressMatch {ref : Reference} {e : Endpoint} (side : Side)
    (he : Endpoint.ofResolved? ref (c.entriesOf ref) = some e) :
    e.addressMatch.fields side.word = c.fieldsFor side ref := by
  unfold fieldsFor
  rcases hitems : c.entriesOf ref with _ | ⟨item, _ | ⟨item', items⟩⟩
  · rw [hitems] at he
    cases he
  · rw [hitems] at he
    cases he
    by_cases hzero : item.address.address = .zero
    · simp [Endpoint.addressMatch, AddressMatch.fields, hzero]
    · simp [Endpoint.addressMatch, AddressMatch.fields, hzero]
  · rw [hitems] at he
    cases he
    rfl

/-- **A rule for references has their fields**, on either side. -/
theorem IsRuleFor.addressFields (h : c.IsRuleFor p refs r) (side : Side) :
    side.addressFields r = c.fieldsFor side (refs side) := by
  obtain ⟨service, -, protocol, -, ends, hends, rfl⟩ := h.made
  rw [Side.addressFields_eq, ← fields_addressMatch side (hends side)]
  cases side with
  | source => rfl
  | destination => rfl

/-- A reference that a rule is for comes to something. -/
theorem IsRuleFor.entriesOf_ne_nil (h : c.IsRuleFor p refs r) (side : Side) :
    c.entriesOf (refs side) ≠ [] := by
  obtain ⟨service, -, protocol, -, ends, hends, -⟩ := h.made
  intro hnil
  have hnone := hends side
  rw [hnil] at hnone
  cases hnone

/-- The references of a policy that compiles resolve. -/
theorem Compiles.resolve_named (hc : c.Compiles p) {side : Side} {ref : Reference}
    (h : ref ∈ p.referencesAt side) : c.resolve ref = .ok (c.entriesOf ref) := by
  cases side with
  | source => exact hc.references ref (List.mem_append_left _ h)
  | destination => exact hc.references ref (List.mem_append_right _ h)

/-! ## What lifts a constraint -/

/-- In every script, a side of a rule is without an address field only if its reference comes to the
network of all addresses, and every other single address stands there as it is stored. -/
def LiftsOnlyWildcard (c : Configuration) : Prop :=
  ∀ policies script, c.compile policies = .ok script →
    ∀ p ∈ active policies, ∀ refs r, c.IsRuleFor p refs r → ∀ side : Side,
      (side.addressFields r = [] → ∃ name, c.resolve (refs side) = .ok [⟨name, .wildcard⟩]) ∧
      ∀ item, c.resolve (refs side) = .ok [item] → item.address ≠ .wildcard →
        side.addressFields r = [side.word ++ "-address=" ++ item.address.text]

/-- A policy from a reference that comes to one entry has a rule. -/
theorem exists_isRuleFor_passToAny {ref : Reference} {item : Resolved}
    (h : c.resolve ref = .ok [item]) :
    ∃ r, c.IsRuleFor (passToAny ref anyService) (Side.choose ref ⟨"Untrust", "any"⟩) r := by
  refine ⟨_, ?_, anyService, List.mem_singleton_self _, "", List.mem_singleton_self _,
    Side.choose (.single ref.name item.address) (.single "any" .wildcard), ?_, rfl⟩
  · rintro (_ | _)
    · exact List.mem_singleton_self _
    · exact List.mem_singleton_self _
  · rintro (_ | _)
    · simp only [Side.choose, entriesOf_of_resolve _ _ h, Endpoint.ofResolved?]
    · simp only [Side.choose, entriesOf_of_resolve _ _ (resolve_any "Untrust"),
        Endpoint.ofResolved?]

/-- **A single network that starts at `0.0.0.0` lifts a constraint**, whatever its prefix length. -/
theorem exists_lifted {ref : Reference} {item : Resolved} (hr : c.resolve ref = .ok [item])
    (hzero : item.address.address = .zero) :
    ∃ script r, c.compile [passToAny ref anyService] = .ok script ∧ r ∈ script.rules ∧
      c.IsRuleFor (passToAny ref anyService) (Side.choose ref ⟨"Untrust", "any"⟩) r ∧
      Side.source.addressFields r = [] := by
  obtain ⟨r, hrule⟩ := exists_isRuleFor_passToAny hr
  have hc : c.compile [passToAny ref anyService] = .ok _ := compile_passToAny hr rfl
  refine ⟨_, r, hc, (mem_rules_iff hc).2 ⟨_, ?_, _, hrule⟩, hrule, ?_⟩
  · rw [active_passToAny]
    exact List.mem_singleton_self _
  · rw [hrule.addressFields]
    exact (fieldsFor_of_resolve .source hr).trans (if_pos hzero)

/-- A reference without fields comes to one entry that starts at `0.0.0.0`. -/
theorem exists_of_fieldsFor_eq_nil {side : Side} {ref : Reference} (hne : c.entriesOf ref ≠ [])
    (h : c.fieldsFor side ref = []) :
    ∃ item, c.entriesOf ref = [item] ∧ item.address.address = .zero := by
  unfold fieldsFor at h
  rcases hitems : c.entriesOf ref with _ | ⟨item, _ | ⟨item', items⟩⟩
  · exact absurd hitems hne
  · refine ⟨item, rfl, ?_⟩
    by_contra hzero
    simp [hitems, hzero] at h
  · simp [hitems] at h

/-- If only the network of all addresses lifts a constraint, there is no network in its place. -/
theorem LiftsOnlyWildcard.hasNoLowNetwork (h : c.LiftsOnlyWildcard) : c.HasNoLowNetwork := by
  intro ref item hr hzero
  obtain ⟨script, r, hc, -, hrule, hfields⟩ := exists_lifted hr hzero
  have hactive : passToAny ref anyService ∈ active [passToAny ref anyService] := by
    rw [active_passToAny]
    exact List.mem_singleton_self _
  obtain ⟨name, hname⟩ := (h _ _ hc _ hactive _ r hrule .source).1 hfields
  have hsame : [item] = [⟨name, .wildcard⟩] := Except.ok.inj (hr.symm.trans hname)
  rw [List.singleton_inj.1 hsame]

/-- And the other way round. -/
theorem HasNoLowNetwork.liftsOnlyWildcard (hlow : c.HasNoLowNetwork) : c.LiftsOnlyWildcard := by
  intro policies script hc p hp refs r hrule side
  have hresolve := ((compile_eq_ok.1 hc).1 p hp).resolve_named (hrule.named side)
  rw [hrule.addressFields]
  constructor
  · intro hnil
    obtain ⟨item, hitem, hzero⟩ := exists_of_fieldsFor_eq_nil (hrule.entriesOf_ne_nil side) hnil
    rw [hitem] at hresolve
    refine ⟨item.name, ?_⟩
    rw [hresolve, ← hlow _ item hresolve hzero]
  · intro item hr hne
    have hzero : item.address.address ≠ .zero := fun hzero => hne (hlow _ item hr hzero)
    rw [fieldsFor_of_resolve side hr, if_neg hzero]

/-- **What lifts a constraint.** A script has just the rules of active policies for their
references. Each of these references resolves, and the address fields of a rule are those for the
references: none for a single address that starts at `0.0.0.0`, whatever its prefix length, any
other single address as it is stored, and a list for several. So the network of all addresses is
alone in lifting a constraint exactly if no reference comes to another single network that starts at
`0.0.0.0`. -/
theorem liftsOnlyWildcard_iff (c : Configuration) :
    (∀ policies script, c.compile policies = .ok script →
      (∀ r, r ∈ script.rules ↔ ∃ p ∈ active policies, ∃ refs, c.IsRuleFor p refs r) ∧
      ∀ p ∈ active policies, ∀ refs r, c.IsRuleFor p refs r → ∀ side : Side,
        c.resolve (refs side) = .ok (c.entriesOf (refs side)) ∧ c.entriesOf (refs side) ≠ [] ∧
          side.addressFields r = c.fieldsFor side (refs side)) ∧
      (c.LiftsOnlyWildcard ↔ c.HasNoLowNetwork) := by
  refine ⟨fun policies script hc => ⟨fun r => mem_rules_iff hc, ?_⟩,
    fun h => h.hasNoLowNetwork, fun hlow => hlow.liftsOnlyWildcard⟩
  intro p hp refs r hrule side
  exact ⟨((compile_eq_ok.1 hc).1 p hp).resolve_named (hrule.named side),
    hrule.entriesOf_ne_nil side, hrule.addressFields side⟩

/-- The network begins with the address zero. -/
theorem resolve_low :
    lowNetwork.resolve ⟨"Trust", "low"⟩ = .ok [⟨"low", ⟨.zero, ⟨8, by decide⟩⟩⟩] := by
  have hlow : lowNetwork.objects.get? "Trust" "low" = some (.plain ⟨.zero, ⟨8, by decide⟩⟩ "") := by
    simp [lowNetwork]
  rw [resolve, AddressBook.resolve_of_flattens (.plain ⟨by decide, rfl⟩ hlow rfl rfl .nil)]
  rfl

/-- The rule of a policy for `0.0.0.0/8` has no field for its source. -/
theorem not_liftsOnlyWildcard_lowNetwork :
    ¬ lowNetwork.LiftsOnlyWildcard ∧
    ∃ script r, lowNetwork.compile [passToAny ⟨"Trust", "low"⟩ "ANY"] = .ok script ∧
      r ∈ script.rules ∧ Side.source.addressFields r = [] ∧
      lowNetwork.resolve ⟨"Trust", "low"⟩ = .ok [⟨"low", ⟨.zero, ⟨8, by decide⟩⟩⟩] := by
  obtain ⟨script, r, hc, hr, -, hfields⟩ := exists_lifted resolve_low rfl
  refine ⟨fun h => ?_, script, r, hc, hr, hfields, resolve_low⟩
  exact absurd (h.hasNoLowNetwork _ _ resolve_low rfl) (by decide)

end Configuration

end ZoneFirewall
