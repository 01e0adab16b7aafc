import ZoneFirewall.Proofs.LiftedConstraints
import ZoneFirewall.Proofs.PortRanges
import ZoneFirewall.Proofs.ShortForms
import ZoneFirewall.Proofs.StatementTokens

/-!
# Reading ports back from rules

A rule for a protocol with ports has a field for each side on which some definition constrains the
ports. The value has a text for each range, with commas between. Behind the protocol and a slash
each of these texts is a short form, which stands for the range again.

* `Side.portValues`: the values of the field for the ports on a side. `portValues_eq`: there is one
  if the rule has ranges for the side.
* `items`: what is between the commas of a value. `items_intercalate`: these are the texts of the
  ranges.
* `portValues_rule`: **the ranges of a rule are read back in the order of the definitions**, and the
  range of all ports is not among them.
-/

namespace ZoneFirewall

open Text

/-! ## Fields for ports -/

namespace Side

/-- The ports of a definition on a side. -/
def ports (d : Definition) : Side → PortRange := choose d.source d.destination

/-- The ranges of a rule on a side. -/
def ranges (r : Rule) : Side → List PortRange := choose r.sourcePorts r.destinationPorts

/-- The name of the field for the ports on a side. -/
def portField (side : Side) : String := side.word ++ "-port"

/-- The values of the field for the ports on a side. -/
def portValues (side : Side) (r : Rule) : List String :=
  ((r.fields.map fun field => cutWord field.toList).filter (·.1 = side.portField)).map (·.2)

/-- Fields of other names are no fields for the ports. -/
theorem filter_eq_nil_of_names (side : Side) {fs : List (String × String)} (names : List String)
    (hnames : (fs.map (·.1)).Sublist names)
    (hother : ∀ name ∈ names, name ∉ ["src-port", "dst-port"]) :
    fs.filter (·.1 = side.portField) = [] := by
  have hside : side.portField ∈ ["src-port", "dst-port"] := by cases side <;> decide
  apply List.filter_eq_nil_iff.2
  intro f hf hport
  rw [← of_decide_eq_true hport] at hside
  exact hother _ (hnames.subset (List.mem_map_of_mem hf)) hside

/-- Fields for the ports on one side are fields for that side only. -/
theorem filter_portAssignments (side other : Side) (ranges : List PortRange) :
    (portAssignments other.word ranges).filter (·.1 = side.portField)
      = if other = side then portAssignments other.word ranges else [] := by
  have hname : ∀ f ∈ portAssignments other.word ranges, f.1 = other.portField := fun f hf =>
    List.mem_singleton.1 ((portNames_sublist other.word ranges).subset (List.mem_map_of_mem hf))
  split
  · rename_i hsame
    subst hsame
    exact List.filter_eq_self.2 fun f hf => decide_eq_true (hname f hf)
  · rename_i hne
    have hfields : other.portField ≠ side.portField := by
      cases other <;> cases side <;> first | exact absurd rfl hne | decide
    apply List.filter_eq_nil_iff.2
    intro f hf hport
    exact hfields ((hname f hf).symm.trans (of_decide_eq_true hport))

/-- The fields of a rule for the ports on a side. -/
theorem filter_assignments (side : Side) (r : Rule) :
    r.assignments.filter (·.1 = side.portField) = portAssignments side.word (side.ranges r) := by
  have hchain : [("chain", r.chain)].filter (·.1 = side.portField) = [] :=
    side.filter_eq_nil_of_names ["chain"] (.refl _) (by decide)
  have hsource := side.filter_eq_nil_of_names _ (AddressMatch.names_sublist "src" r.source)
    (by decide)
  have hdestination := side.filter_eq_nil_of_names _
    (AddressMatch.names_sublist "dst" r.destination) (by decide)
  have hprotocol := side.filter_eq_nil_of_names ["protocol"]
    (optionNames_sublist (¬ r.protocol = "") ("protocol", r.protocol.joined)) (by decide)
  have hicmp := side.filter_eq_nil_of_names ["icmp-options"]
    (optionNames_sublist (r.protocol = "icmp") ("icmp-options", icmpEchoOptions)) (by decide)
  have haction : [("action", r.verdict.word)].filter (·.1 = side.portField) = [] :=
    side.filter_eq_nil_of_names ["action"] (.refl _) (by decide)
  have hlog := side.filter_eq_nil_of_names ["log"] (optionNames_sublist r.log ("log", "yes"))
    (by decide)
  have hsourcePorts : (portAssignments "src" r.sourcePorts).filter (·.1 = side.portField)
      = if source = side then portAssignments "src" r.sourcePorts else [] :=
    side.filter_portAssignments source r.sourcePorts
  have hdestinationPorts : (portAssignments "dst" r.destinationPorts).filter (·.1 = side.portField)
      = if destination = side then portAssignments "dst" r.destinationPorts else [] :=
    side.filter_portAssignments destination r.destinationPorts
  unfold Rule.assignments
  rw [← ite_not (r.protocol = "")]
  simp only [List.filter_append, hchain, hsource, hdestination, hprotocol, hicmp, haction, hlog,
    hsourcePorts, hdestinationPorts, List.nil_append, List.append_nil]
  cases side with
  | source => exact List.append_nil _
  | destination => exact List.nil_append _

/-- **There is a value if the rule has ranges for the side**, and it has the text of each. -/
theorem portValues_eq (side : Side) (r : Rule) :
    side.portValues r = if side.ranges r = [] then []
      else [",".intercalate ((side.ranges r).map (·.text))] := by
  have hcut : r.fields.map (fun field => cutWord field.toList) = r.assignments := by
    rw [Rule.fields_eq, List.map_map]
    calc r.assignments.map ((fun field => cutWord field.toList) ∘ fieldText)
        = r.assignments.map id := List.map_congr_left fun f hf =>
          cutWord_fieldText (fieldNames_plain f.1
            (r.names_sublist.subset (List.mem_map_of_mem hf))).1
      _ = r.assignments := List.map_id _
  rw [portValues, hcut, filter_assignments, portAssignments]
  split
  · rfl
  · rfl

end Side

/-! ## Between the commas -/

/-- What is between the commas of a text. -/
def items (text : String) : List String := (text.toList.splitOn ',').map String.ofList

/-- There is no comma in the text of a range. -/
theorem comma_not_mem_text (range : PortRange) : ',' ∉ range.text.toList := by
  intro hcomma
  exact absurd (range.isDetailText_text.2 _ hcomma) (by decide)

/-- **Texts of ranges with commas between are found again.** -/
theorem items_intercalate {ranges : List PortRange} (h : ranges ≠ []) :
    items (",".intercalate (ranges.map (·.text))) = ranges.map (·.text) := by
  have hcomma : ∀ text ∈ (ranges.map (·.text)).map String.toList, ',' ∉ text := by
    rw [List.map_map]
    intro text htext
    obtain ⟨range, -, rfl⟩ := List.mem_map.1 htext
    exact comma_not_mem_text range
  have hmark : ",".toList = [','] := rfl
  rw [items, String.toList_intercalate, hmark,
    List.splitOn_intercalate ',' hcomma (by simpa using h)]
  simp only [List.map_map, Function.comp_def, String.ofList_toList]

/-! ## Rules -/

/-- The short form for a protocol and an item. -/
def itemSpec (protocol item : String) : WideText := .ofString (protocol ++ "/" ++ item)

namespace Configuration

variable {protocol : String} {side : Side} {ds : List Definition}

/-- The ranges that constrain the ports of some definitions for a protocol on a side. -/
def constraints (side : Side) (protocol : WideText) (ds : List Definition) : List PortRange :=
  ((ds.filter (·.protocol = protocol)).map side.ports).filter (· ≠ .full)

/-- The constraints of a protocol are the ranges of its definitions that are not full. -/
theorem mem_constraints {protocol : WideText} {range : PortRange} :
    range ∈ constraints side protocol ds ↔
      ∃ d ∈ ds, d.protocol = protocol ∧ side.ports d = range ∧ range ≠ .full := by
  simp only [constraints, List.mem_filter, List.mem_map, decide_eq_true_eq, ne_eq]
  constructor
  · rintro ⟨⟨d, ⟨hd, hprotocol⟩, hrange⟩, hne⟩
    exact ⟨d, hd, hprotocol, hrange, hne⟩
  · rintro ⟨d, hd, hprotocol, hrange, hne⟩
    exact ⟨⟨d, ⟨hd, hprotocol⟩, hrange⟩, hne⟩

/-- A rule for a protocol with ports has the ranges that constrain them. -/
theorem ranges_rule (hprotocol : protocol = "tcp" ∨ protocol = "udp") (p : Policy)
    (source destination : Endpoint) :
    side.ranges (rule p ds protocol source destination) = constraints side protocol ds := by
  have hwide : (protocol : WideText) = "tcp" ∨ (protocol : WideText) = "udp" :=
    hprotocol.imp (congrArg _) (congrArg _)
  cases side with
  | source =>
      show portRanges (·.source) protocol ds = _
      rw [portRanges, if_pos hwide]
      rfl
  | destination =>
      show portRanges (·.destination) protocol ds = _
      rw [portRanges, if_pos hwide]
      rfl

/-- The text of a range behind its protocol is read back. -/
theorem parseSpec_itemSpec {range : PortRange} (hprotocol : protocol = "tcp" ∨ protocol = "udp")
    (hrange : range.IsReadable) : Definition.parseSpec (itemSpec protocol range.text)
      = .ok { protocol, destination := range } := by
  have hlower : protocol.toLower = protocol := by
    rcases hprotocol with rfl | rfl <;> decide +kernel
  rw [itemSpec, ← Writing.text_plain hlower]
  exact Definition.parseSpec_text (.plain hlower) hprotocol hrange

/-- Two ranges that can be read do not have the same text. -/
theorem text_injective {range other : PortRange} (hrange : range.IsReadable)
    (hother : other.IsReadable) (h : range.text = other.text) : range = other := by
  have hread := parseSpec_itemSpec (.inl rfl) hrange
  rw [h, parseSpec_itemSpec (.inl rfl) hother] at hread
  exact (congrArg Definition.destination (Except.ok.inj hread)).symm

/-- **The ports of a rule are read back.** Let the ports of some definitions be readable. A rule for
a protocol with ports has a field for a side exactly if one of the definitions for the protocol
constrains the ports there, and only one such field. The short forms for the items of its value
stand for the ranges that constrain the ports, in the order of the definitions; so the range of all
ports is not among the items. The text of each range that can be read is read back in whatever way
the short form is written. -/
theorem portValues_rule (hprotocol : protocol = "tcp" ∨ protocol = "udp") :
    (∀ (p : Policy) (source destination : Endpoint) (ds : List Definition) (side : Side),
      (∀ d ∈ ds, d.protocol = protocol → (side.ports d).IsReadable) →
        (side.portValues (rule p ds protocol source destination) ≠ [] ↔
          ∃ d ∈ ds, d.protocol = protocol ∧ side.ports d ≠ .full) ∧
        ∀ value ∈ side.portValues (rule p ds protocol source destination),
          side.portValues (rule p ds protocol source destination) = [value] ∧
          (items value).map (fun item => Definition.parseSpec (itemSpec protocol item))
            = (constraints side protocol ds).map
              (fun range => .ok { protocol, destination := range }) ∧
          "0-65535" ∉ items value) ∧
    ∀ range : PortRange, range.IsReadable → ∀ w : Writing protocol,
      Definition.parseSpec (w.text range.text) = .ok { protocol, destination := range } := by
  refine ⟨fun p source destination ds side hreadable => ?_,
    fun range hrange w => Definition.parseSpec_text w hprotocol hrange⟩
  have hranges : ∀ range ∈ constraints side protocol ds, range.IsReadable ∧ range ≠ .full := by
    intro range hrange
    obtain ⟨d, hd, hp, rfl, hne⟩ := mem_constraints.1 hrange
    exact ⟨hreadable d hd hp, hne⟩
  have hvalues := Side.portValues_eq side (rule p ds protocol source destination)
  rw [ranges_rule hprotocol] at hvalues
  by_cases hnil : constraints side protocol ds = []
  · rw [if_pos hnil] at hvalues
    rw [hvalues]
    refine ⟨⟨fun h => absurd rfl h, ?_⟩, fun value hvalue => ?_⟩
    · rintro ⟨d, hd, hp, hne⟩
      have hmem := mem_constraints.2 ⟨d, hd, hp, rfl, hne⟩
      rw [hnil] at hmem
      cases hmem
    · cases hvalue
  · rw [if_neg hnil] at hvalues
    rw [hvalues]
    refine ⟨⟨fun _ => ?_, fun _ => List.cons_ne_nil _ _⟩, fun value hvalue => ?_⟩
    · obtain ⟨range, hrange⟩ := List.exists_mem_of_ne_nil _ hnil
      obtain ⟨d, hd, hp, rfl, hne⟩ := mem_constraints.1 hrange
      exact ⟨d, hd, hp, hne⟩
    · rw [List.mem_singleton.1 hvalue, items_intercalate hnil]
      refine ⟨rfl, ?_, ?_⟩
      · rw [List.map_map]
        apply List.map_congr_left
        intro range hrange
        exact parseSpec_itemSpec hprotocol (hranges range hrange).1
      · intro hfull
        obtain ⟨range, hrange, htext⟩ := List.mem_map.1 hfull
        have hfullReadable : PortRange.full.IsReadable := ⟨by decide, by decide, by decide⟩
        obtain ⟨hrangeReadable, hne⟩ := hranges range hrange
        exact hne (text_injective hrangeReadable hfullReadable htext)

/-- A definition of one port, one of two, and one for all ports, which is left out. -/
theorem portValues_web :
    let ds : List Definition := [.tcp 443 443, { protocol := "tcp" }, .tcp 8000 8001, .udp 53 53]
    let r := rule (passToAny ⟨"Trust", "any"⟩ "web") ds "tcp" (.list "a") (.list "b")
    Side.destination.portValues r = ["443,8000-8001"] ∧ Side.source.portValues r = [] ∧
      (items "443,8000-8001").map (fun item => Definition.parseSpec (itemSpec "tcp" item))
        = [.ok (.tcp 443 443), .ok (.tcp 8000 8001)] := by
  intro ds r
  have hreadable : ∀ side : Side, ∀ d ∈ ds, d.protocol = .ofString "tcp" →
      (side.ports d).IsReadable := by
    intro side d hd _
    have hd' : (side.ports d) ∈ [⟨443, 443⟩, .full, ⟨8000, 8001⟩, ⟨53, 53⟩] := by
      simp only [ds, List.mem_cons, List.not_mem_nil, or_false] at hd
      rcases hd with rfl | rfl | rfl | rfl <;> cases side <;> decide
    simp only [List.mem_cons, List.not_mem_nil, or_false] at hd'
    rcases hd' with h | h | h | h <;> rw [h] <;> exact ⟨by decide, by decide, by decide⟩
  have hvalues : Side.destination.portValues r = ["443,8000-8001"] := by decide +kernel
  have hnone : ¬ ∃ d ∈ ds, d.protocol = .ofString "tcp" ∧ Side.source.ports d ≠ .full := by decide
  refine ⟨hvalues, ?_, ?_⟩
  · by_contra hsome
    exact hnone (((portValues_rule (.inl rfl)).1 _ _ _ ds .source (hreadable .source)).1.1 hsome)
  · obtain ⟨-, hvalue⟩ := (portValues_rule (.inl rfl)).1 _ (.list "a") (.list "b") ds .destination
      (hreadable .destination)
    exact (hvalue _ (hvalues ▸ List.mem_singleton_self _)).2.1

end Configuration

end ZoneFirewall
