import ZoneFirewall.Proofs.Compilation
import ZoneFirewall.Proofs.Instructions
import ZoneFirewall.Proofs.Rearrangement

/-!
# What services end up as

The first definition line of a name throws away what the catalog had for it. Further ones add to it,
and so do continuations, which go to the service that was defined last, whatever they are written
for. What comes of that can be read off the directives.

* `ServiceClause.definition`: the definition that a clause carries.
* `serviceNames`, `lastServiceOf`: the services that directives define, and the last of them.
* `definitionsGiven`, `definitionsIn`: the definitions that services get.
* `Reading.Provides`: a state whose services are those that directives make of a catalog.
  `Does.provides`: **it stays one when a directive does what it does.**
* `services_ofLines`: **in accepted lines a service that is defined has its definitions, and any
  other name has what it had in the catalog.**
-/

namespace ZoneFirewall

open Text

/-! ## Definitions -/

/-- The definition that a clause carries. -/
def ServiceClause.definition : ServiceClause → Definition
  | .ports protocol none => { protocol }
  | .ports protocol (some r) =>
    { protocol
      source := ⟨numeralValue r.sourceFirst, numeralValue r.sourceLast⟩
      destination := ⟨numeralValue r.destinationFirst, numeralValue r.destinationLast⟩ }
  | .icmp type code =>
    { protocol := "icmp", icmpType := some (numeralValue type : Int),
      icmpCode := some (numeralValue code : Int) }

/-- The definition that is read off a clause is the one that it carries. -/
theorem eq_definition_of_definitionOf {clause : ServiceClause} {definition : Definition}
    (hclause : ∀ n ∈ clause.numerals, IsNumeral n)
    (h : Reading.definitionOf clause = .ok definition) : definition = clause.definition := by
  rcases clause with ⟨protocol, _ | r⟩ | ⟨type, code⟩
  · cases h
    rfl
  · simp only [Reading.definitionOf, bind_eq_ok] at h
    obtain ⟨sourceFirst, hsf, sourceLast, hsl, destFirst, hdf, destLast, hdl, hdef⟩ := h
    cases hdef
    have hsf' := eq_numeralValue (hclause _ (by simp [ServiceClause.numerals])) hsf
    have hsl' := eq_numeralValue (hclause _ (by simp [ServiceClause.numerals])) hsl
    have hdf' := eq_numeralValue (hclause _ (by simp [ServiceClause.numerals])) hdf
    have hdl' := eq_numeralValue (hclause _ (by simp [ServiceClause.numerals])) hdl
    rw [ServiceClause.definition, hsf', hsl', hdf', hdl']
  · simp only [Reading.definitionOf, bind_eq_ok] at h
    obtain ⟨typeValue, htype, codeValue, hcode, hdef⟩ := h
    cases hdef
    have htype' := eq_numeralValue (hclause _ (by simp [ServiceClause.numerals])) htype
    have hcode' := eq_numeralValue (hclause _ (by simp [ServiceClause.numerals])) hcode
    rw [ServiceClause.definition, htype', hcode']

/-! ## What directives give -/

/-- The service that a directive defines. -/
def Directive.serviceName? : Directive → Option String
  | .service name _ => some name
  | _ => none

/-- The services that directives define. -/
def serviceNames (ds : List Directive) : List String := ds.filterMap Directive.serviceName?

/-- The service that is defined last. -/
def lastServiceOf (ds : List Directive) : Option String := (serviceNames ds).getLast?

/-- The definition that a directive carries, with the service that it goes to: for a continuation
the one that was defined last before it. -/
def Directive.definitionAfter (earlier : List Directive) :
    Directive → Option (String × Definition)
  | .service name clause => some (name, clause.definition)
  | .serviceContinue _ clause => (lastServiceOf earlier).map fun last => (last, clause.definition)
  | _ => none

/-- The definitions that directives carry, with the services that they go to. -/
def definitionsGiven (ds : List Directive) : List (String × Definition) :=
  ds.zipIdx.filterMap fun e => e.1.definitionAfter (ds.take e.2)

/-- The definitions that a service gets. -/
def definitionsIn (name : String) (ds : List Directive) : List Definition :=
  valuesFor name (definitionsGiven ds)

variable {ds : List Directive} {d : Directive} {name : String}

/-- A further directive adds the name of its service, if it defines one. -/
theorem serviceNames_append_singleton (ds : List Directive) (d : Directive) :
    serviceNames (ds ++ [d]) = serviceNames ds ++ d.serviceName?.toList :=
  filterMap_append_singleton _ ds d

/-- Directives that define no service leave the services that are defined. -/
theorem serviceNames_append_of_none (h : d.serviceName? = none) :
    serviceNames (ds ++ [d]) = serviceNames ds := by
  rw [serviceNames_append_singleton, h, Option.toList_none, List.append_nil]

/-- That service is the last one then. -/
theorem lastServiceOf_append_singleton (ds : List Directive) (d : Directive) :
    lastServiceOf (ds ++ [d]) = d.serviceName?.or (lastServiceOf ds) := by
  rw [lastServiceOf, serviceNames_append_singleton, List.getLast?_append]
  rcases d.serviceName? with _ | name
  · rfl
  · rfl

/-- The service that is defined last is defined. -/
theorem mem_serviceNames_of_last (h : lastServiceOf ds = some name) : name ∈ serviceNames ds :=
  List.mem_of_getLast? h

/-- What a directive gives depends on those before it alone. -/
theorem definitionsGiven_append_singleton (ds : List Directive) (d : Directive) :
    definitionsGiven (ds ++ [d]) = definitionsGiven ds ++ (d.definitionAfter ds).toList := by
  have hearlier : ds.zipIdx.filterMap (fun e => e.1.definitionAfter ((ds ++ [d]).take e.2))
      = definitionsGiven ds := by
    apply List.filterMap_congr
    intro e he
    obtain ⟨hlt, -⟩ := List.mem_zipIdx' he
    rw [List.take_append_of_le_length (Nat.le_of_lt hlt)]
  have hlast : (ds ++ [d]).zipIdx = ds.zipIdx ++ [(d, ds.length)] := by
    rw [List.zipIdx_append, Nat.zero_add]
    rfl
  rw [definitionsGiven, hlast, filterMap_append_singleton, hearlier, List.take_left' rfl]

/-- Definitions go to services that are defined. -/
theorem mem_serviceNames_of_given {e : String × Definition} (h : e ∈ definitionsGiven ds) :
    e.1 ∈ serviceNames ds := by
  obtain ⟨⟨d, i⟩, hd, he⟩ := List.mem_filterMap.1 h
  have hmem : d ∈ ds := by
    obtain ⟨hlt, hget⟩ := List.mem_zipIdx' hd
    rw [hget]
    exact List.getElem_mem hlt
  cases d with
  | service name clause =>
      cases he
      exact List.mem_filterMap.2 ⟨_, hmem, rfl⟩
  | serviceContinue name clause =>
      obtain ⟨last, hlast, rfl⟩ := Option.map_eq_some_iff.1 he
      obtain ⟨d', hd', hname⟩ := List.mem_filterMap.1 (mem_serviceNames_of_last hlast)
      exact List.mem_filterMap.2 ⟨d', List.mem_of_mem_take hd', hname⟩
  | _ => cases he

/-- A service that is not defined gets no definitions. -/
theorem definitionsIn_eq_nil (h : name ∉ serviceNames ds) : definitionsIn name ds = [] := by
  apply valuesFor_eq_nil
  rintro e he rfl
  exact h (mem_serviceNames_of_given he)

/-! ## Services of a catalog -/

/-- Names that are spelled alike are the same. -/
theorem ofString_injective : Function.Injective WideText.ofString := by
  intro text text' h
  have hchars : text.toList = text'.toList := by
    rw [← chars_ofString, h, chars_ofString]
  rw [← String.ofList_toList (s := text), hchars, String.ofList_toList]

/-- The services of a table are those that directives make of a seed. -/
structure Supplies (seed services : Table WideText (List Definition)) (ds : List Directive) :
    Prop where
  /-- A service that is defined has its definitions. -/
  defined : ∀ name ∈ serviceNames ds,
    services.get? (.ofString name) = some (definitionsIn name ds)
  /-- Any other name has what the seed has. -/
  kept : ∀ name : WideText, (∀ n ∈ serviceNames ds, .ofString n ≠ name) →
    services.get? name = seed.get? name

variable {seed services services' : Table WideText (List Definition)}

/-- A directive that gives nothing leaves the services as they are. -/
theorem Supplies.of_nothing (h : Supplies seed services ds) (hname : d.serviceName? = none)
    (hgives : d.definitionAfter ds = none) : Supplies seed services (ds ++ [d]) := by
  have hnames : serviceNames (ds ++ [d]) = serviceNames ds := serviceNames_append_of_none hname
  have hgiven : definitionsGiven (ds ++ [d]) = definitionsGiven ds := by
    rw [definitionsGiven_append_singleton, hgives, Option.toList_none, List.append_nil]
  refine ⟨fun name hmem => ?_, fun name hother => ?_⟩
  · rw [hnames] at hmem
    rw [h.defined name hmem, definitionsIn, definitionsIn, hgiven]
  · rw [hnames] at hother
    exact h.kept name hother

/-- A directive that gives a definition adds it to the service that it goes to, whose entry before
is thrown away if no definition has gone there yet. -/
theorem Supplies.of_definition {definition : Definition} (h : Supplies seed services ds)
    (hgives : d.definitionAfter ds = some (name, definition))
    (hname : name ∈ serviceNames (ds ++ [d]))
    (hget : ∀ a : WideText, services'.get? a
      = if .ofString name = a then some (definitionsIn name ds ++ [definition])
        else services.get? a) : Supplies seed services' (ds ++ [d]) := by
  have hgiven : ∀ n, definitionsIn n (ds ++ [d])
      = definitionsIn n ds ++ if name = n then [definition] else [] := by
    intro n
    rw [definitionsIn, definitionsGiven_append_singleton, hgives]
    exact valuesFor_append_singleton n _ _
  refine ⟨fun n hn => ?_, fun a ha => ?_⟩
  · rw [hget, hgiven]
    by_cases hsame : name = n
    · rw [if_pos (congrArg _ hsame), if_pos hsame, hsame]
    · have hbefore : n ∈ serviceNames ds := by
        rw [serviceNames_append_singleton, List.mem_append, Option.mem_toList] at hn
        rcases hn with hn | hn
        · exact hn
        · cases d with
          | service =>
              cases hn
              cases hgives
              exact absurd rfl hsame
          | _ => cases hn
      rw [if_neg fun heq => hsame (ofString_injective heq), if_neg hsame, List.append_nil,
        h.defined n hbefore]
  · rw [hget, if_neg (ha name hname)]
    apply h.kept
    intro n hn
    apply ha
    rw [serviceNames_append_singleton]
    exact List.mem_append_left _ hn

/-! ## States -/

namespace Reading

variable {resolver : Option Resolver} {number : Nat} {s s' : Reading} {i : Instruction}

/-- The services of a state, and what later lines go by, are those that directives make. -/
structure Provides (seed : Table WideText (List Definition)) (s : Reading) (ds : List Directive) :
    Prop where
  /-- The last service is the one that was defined last. -/
  lastService : s.lastService = lastServiceOf ds
  /-- The services that have had a definition are those that are defined. -/
  mem_definedServices : ∀ name, name ∈ s.definedServices ↔ name ∈ serviceNames ds
  /-- The services are those that directives make. -/
  supplies : Supplies seed s.configuration.services.services ds

/-- A state with the same services still has those that directives make, if there is nothing to be
made of the next one. -/
theorem Provides.of_nothing (h : Provides seed s ds)
    (hservices : s.configuration.services.services = s'.configuration.services.services)
    (hlast : s.lastService = s'.lastService) (hdefined : s.definedServices = s'.definedServices)
    (hname : d.serviceName? = none) (hgives : d.definitionAfter ds = none) :
    Provides seed s' (ds ++ [d]) := by
  have hnames : serviceNames (ds ++ [d]) = serviceNames ds := serviceNames_append_of_none hname
  refine ⟨?_, fun name => ?_, ?_⟩
  · rw [← hlast, h.lastService, lastServiceOf, lastServiceOf, hnames]
  · rw [← hdefined, h.mem_definedServices, hnames]
  · rw [← hservices]
    exact h.supplies.of_nothing hname hgives

/-- A definition goes to the service that it names. -/
theorem Provides.withDefinition {clause : ServiceClause} (h : Provides seed s ds) :
    Provides seed (s.withDefinition name clause.definition) (ds ++ [.service name clause]) := by
  have hname : name ∈ serviceNames (ds ++ [.service name clause]) := by
    rw [serviceNames_append_singleton]
    exact List.mem_append_right _ List.mem_cons_self
  unfold Reading.withDefinition
  by_cases hknown : name ∈ s.definedServices
  · rw [if_pos hknown]
    have hbefore : name ∈ serviceNames ds := (h.mem_definedServices name).1 hknown
    refine ⟨?_, fun n => ?_, h.supplies.of_definition rfl hname fun a => ?_⟩
    · rw [lastServiceOf_append_singleton]
      rfl
    · rw [serviceNames_append_singleton, List.mem_append, ← h.mem_definedServices,
        Option.mem_toList]
      constructor
      · exact .inl
      · rintro (hn | hn)
        · exact hn
        · cases hn
          exact hknown
    · simp only [onServices, Catalog.append, Table.get?_update, h.supplies.defined name hbefore,
        Option.getD_some]
  · rw [if_neg hknown]
    have hbefore : name ∉ serviceNames ds := by
      intro hmem
      exact hknown ((h.mem_definedServices name).2 hmem)
    refine ⟨?_, fun n => ?_, h.supplies.of_definition rfl hname fun a => ?_⟩
    · rw [lastServiceOf_append_singleton]
      rfl
    · rw [serviceNames_append_singleton, List.mem_append, ← h.mem_definedServices, List.mem_cons,
        Or.comm]
      exact or_congr_right (by rw [eq_comm, Option.mem_toList]; exact Option.some_inj.symm)
    · simp only [onServices, Catalog.define, Table.get?_insert, definitionsIn_eq_nil hbefore,
        List.nil_append]

/-- A continuation goes to the service that was defined last. -/
theorem Provides.append {clause : ServiceClause} {last : String} (h : Provides seed s ds)
    (hlast : s.lastService = some last) :
    Provides seed (s.onServices (·.append (.ofString last) clause.definition))
      (ds ++ [.serviceContinue name clause]) := by
  have hnames : serviceNames (ds ++ [.serviceContinue name clause]) = serviceNames ds :=
    serviceNames_append_of_none rfl
  rw [h.lastService] at hlast
  have hbefore : last ∈ serviceNames ds := mem_serviceNames_of_last hlast
  have hgives : Directive.definitionAfter ds (.serviceContinue name clause)
      = some (last, clause.definition) := by
    rw [Directive.definitionAfter, hlast]
    rfl
  refine ⟨?_, fun n => ?_, h.supplies.of_definition hgives (hnames ▸ hbefore) fun a => ?_⟩
  · rw [lastServiceOf, hnames]
    exact h.lastService
  · rw [hnames]
    exact h.mem_definedServices n
  · simp only [onServices, Catalog.append, Table.get?_update, h.supplies.defined last hbefore,
      Option.getD_some]

/-- **The services stay those that directives make when one more does what it does.** -/
theorem Does.provides {place : Place} (h : Does resolver number s d place s')
    (hwritten : d.WellWritten) (hs : Provides seed s ds) : Provides seed s' (ds ++ [d]) := by
  have hother := h.agree (q := .services)
  cases h with
  | @service name clause definition hdefinition =>
      rw [eq_definition_of_definitionOf hwritten.1 hdefinition]
      exact hs.withDefinition
  | @serviceContinue name last clause definition hlast hdefinition =>
      rw [eq_definition_of_definitionOf hwritten.1 hdefinition]
      exact hs.append hlast
  | address =>
      obtain ⟨hservices, hlast, hdefined⟩ := hother nofun
      exact hs.of_nothing (congrArg Catalog.services hservices) hlast hdefined rfl rfl
  | _ => exact hs.of_nothing rfl rfl rfl rfl rfl

end Reading

/-- **In accepted lines a service that is defined has its definitions, and any other name has what
it had in the catalog.** -/
theorem services_ofLines {services : Catalog} {resolver : Option Resolver} {texts : List String}
    {c : Configuration} (h : Configuration.ofLines services resolver texts = .ok c) :
    (∀ name ∈ serviceNames (directivesOf texts),
      c.services.definitions (.ofString name) = .ok (definitionsIn name (directivesOf texts))) ∧
    ∀ name : WideText, (∀ n ∈ serviceNames (directivesOf texts), .ofString n ≠ name) →
      c.services.services.get? name = services.services.get? name := by
  obtain ⟨s, rfl, hprovides⟩ := ofLines_directive_induction
    (P := fun ds s => s.Provides services.services ds)
    ⟨rfl, fun _ => Iff.rfl, fun _ hmem => absurd hmem List.not_mem_nil, fun _ _ => rfl⟩
    (fun _ _ _ _ _ _ hs hwritten hdoes => hdoes.provides hwritten hs)
    (fun _ _ _ _ hs => ⟨hs.lastService, hs.mem_definedServices, hs.supplies⟩) h
  exact ⟨fun name hname => Catalog.definitions_of_get? (hprovides.supplies.defined name hname),
    hprovides.supplies.kept⟩

/-- A service that is defined twice loses what the catalog had once, a continuation goes where the
last definition went, and another service stays. -/
theorem services_of_redefinition :
    ∃ c, Configuration.ofLines
        ⟨.ofList [("HTTP", [.tcp 80 80]), ("DNS", [.udp 53 53])], .empty⟩ none
        ["set service \"HTTP\" protocol tcp src-port 0-65535 dst-port 8000-8001",
          "set service \"s\" protocol udp", "set group service \"HTTP\" add \"s\"",
          "set service \"HTTP\" + icmp type 8 code 0", "set service \"HTTP\" timeout 30",
          "set service \"HTTP\" protocol 47", "set service \"s\" + tcp"] = .ok c ∧
      c.services.definitions "HTTP"
        = .ok [.tcp 8000 8001, { protocol := "47" }, { protocol := "tcp" }] ∧
      c.services.definitions "s"
        = .ok [{ protocol := "udp" },
            { protocol := "icmp", icmpType := some 8, icmpCode := some 0 }] ∧
      c.services.services.get? "DNS" = some [.udp 53 53] := by
  generalize htexts :
    ["set service \"HTTP\" protocol tcp src-port 0-65535 dst-port 8000-8001",
      "set service \"s\" protocol udp", "set group service \"HTTP\" add \"s\"",
      "set service \"HTTP\" + icmp type 8 code 0", "set service \"HTTP\" timeout 30",
      "set service \"HTTP\" protocol 47", "set service \"s\" + tcp"] = texts
  have hdirectives : directivesOf texts
      = [.service "HTTP" (.ports "tcp" (some ⟨"0", "65535", "8000", "8001"⟩)),
          .service "s" (.ports "udp" none), .serviceGroupAdd "HTTP" "s",
          .serviceContinue "HTTP" (.icmp "8" "0"), .serviceTimeout "HTTP" "timeout 30",
          .service "HTTP" (.ports "47" none), .serviceContinue "s" (.ports "tcp" none)] := by
    rw [← htexts]
    decide +kernel
  generalize hseed :
    (⟨.ofList [("HTTP", [.tcp 80 80]), ("DNS", [.udp 53 53])], .empty⟩ : Catalog) = seed
  have hok : (Configuration.ofLines seed none texts).isOk := by
    rw [← htexts, ← hseed]
    decide +kernel
  rcases hrun : Configuration.ofLines seed none texts with e | c
  · rw [hrun] at hok
    cases hok
  · obtain ⟨hdefined, hkept⟩ := services_ofLines hrun
    rw [hdirectives] at hdefined hkept
    refine ⟨c, rfl, ?_, ?_, ?_⟩
    · rw [hdefined "HTTP" (by decide +kernel)]
      decide +kernel
    · rw [hdefined "s" (by decide +kernel)]
      decide +kernel
    · rw [hkept "DNS" (by decide +kernel), ← hseed]
      decide +kernel

end ZoneFirewall
