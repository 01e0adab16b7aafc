import ZoneFirewall.Proofs.LoadedSettings
import ZoneFirewall.Proofs.ServiceEntries

/-!
# Services of settings over the predefined ones

The services of settings are put into the predefined catalog before a configuration is read. Their
short forms are read a second time then, which cannot fail once settings have been loaded.

* `Settings.definitionsFor`: the definitions of short forms that can be read.
* `Catalog.Overlays`: a catalog that has the definitions of some entries, and for other names those
  of another catalog. `overlays_append_singleton`: one more entry is one more definition;
  `overlays_foldl`: so it goes through all of them.
* `supplies_ofLines`: what accepted lines leave of a catalog.
* `Settings.catalog_of_ofValue`: **loaded settings have a catalog, which has the definitions of
  their services and else what is predefined; and lines that do not define a service leave it as it
  is there.**
-/

namespace ZoneFirewall

open Text Yaml

/-! ## Catalogs over one another -/

namespace Catalog

variable {base c : Catalog} {entries : List (WideText × List Definition)}

/-- A catalog without groups has the definitions of some entries over those of another catalog. -/
structure Overlays (base : Catalog) (entries : List (WideText × List Definition)) (c : Catalog) :
    Prop where
  /-- There are no groups. -/
  groups : ∀ name, c.groups.get? name = none
  /-- Each entry has its definitions. -/
  defined : ∀ e ∈ entries, c.services.get? e.1 = some e.2
  /-- Other names have what they had. -/
  kept : ∀ name ∉ entries.map Prod.fst, c.services.get? name = base.services.get? name

/-- Without entries nothing changes. -/
theorem overlays_nil (hgroups : ∀ name, base.groups.get? name = none) : Overlays base [] base :=
  ⟨hgroups, fun _ he => absurd he List.not_mem_nil, fun _ _ => rfl⟩

/-- One more entry is put over the others if its name is none of theirs. -/
theorem overlays_append_singleton (h : Overlays base entries c) {name : WideText}
    {ds : List Definition} (hnew : name ∉ entries.map Prod.fst) :
    Overlays base (entries ++ [(name, ds)]) (c.define name ds) := by
  refine ⟨fun a => ?_, fun e he => ?_, fun a ha => ?_⟩
  · rw [define, Table.get?_erase, h.groups]
    exact ite_self none
  · rw [define, Table.get?_insert]
    rcases List.mem_append.1 he with hold | hlast
    · have hne : name ≠ e.1 := by
        intro hsame
        rw [hsame] at hnew
        exact hnew (List.mem_map_of_mem hold)
      rw [if_neg hne]
      exact h.defined e hold
    · rw [List.mem_singleton.1 hlast]
      exact if_pos rfl
  · rw [List.map_append, List.mem_append, not_or, List.map_singleton, List.mem_singleton] at ha
    rw [define, Table.get?_insert, if_neg (Ne.symm ha.2)]
    exact h.kept a ha.1

/-- **Entries of different names are put over a catalog one after another.** -/
theorem overlays_foldl (hgroups : ∀ name, base.groups.get? name = none)
    (hnodup : (entries.map Prod.fst).Nodup) :
    Overlays base entries (entries.foldl (fun c e => c.define e.1 e.2) base) := by
  induction entries using List.reverseRecOn with
  | nil => exact overlays_nil hgroups
  | append_singleton entries e ih =>
      rw [List.map_append, List.nodup_append] at hnodup
      obtain ⟨hentries, -, hdisjoint⟩ := hnodup
      rw [List.foldl_append]
      apply overlays_append_singleton (ih hentries)
      exact fun hmem => hdisjoint _ hmem _ List.mem_cons_self rfl

/-- A name that is neither a service nor a group is reported. -/
theorem definitions_of_not_contains {name : WideText} (h : c.contains name = false) :
    c.definitions name = .error (.leaf name) := by
  obtain ⟨hservice, hgroup⟩ := contains_eq_false_iff.1 h
  apply Hierarchy.expandFrom_leaf_error
  simp only [hierarchy, hservice, hgroup]

/-- Without groups a name has definitions if it is a service. -/
theorem definitions_eq_ok_iff_of_no_groups (hgroups : ∀ name, c.groups.get? name = none)
    {name : WideText} {ds : List Definition} :
    c.definitions name = .ok ds ↔ c.services.get? name = some ds := by
  constructor
  · intro h
    rcases hget : c.services.get? name with _ | ds'
    · rw [definitions_of_not_contains (contains_eq_false_iff.2 ⟨hget, hgroups name⟩)] at h
      cases h
    · rw [definitions_of_get? hget] at h
      rw [Except.ok.inj h]
  · exact definitions_of_get?

end Catalog

/-! ## The catalog of settings -/

/-- In accepted lines the services are those that their directives make of the catalog. -/
theorem supplies_ofLines {services : Catalog} {resolver : Option Resolver} {texts : List String}
    {c : Configuration} (h : Configuration.ofLines services resolver texts = .ok c) :
    Supplies services.services c.services.services (directivesOf texts) := by
  obtain ⟨s, rfl, hprovides⟩ := ofLines_directive_induction
    (P := fun ds s => s.Provides services.services ds)
    ⟨rfl, fun _ => Iff.rfl, fun _ hmem => absurd hmem List.not_mem_nil, fun _ _ => rfl⟩
    (fun _ _ _ _ _ _ hs hwritten hdoes => hdoes.provides hwritten hs)
    (fun _ _ _ _ hs => ⟨hs.lastService, hs.mem_definedServices, hs.supplies⟩) h
  exact hprovides.supplies

namespace Settings

variable {s : Settings}

/-- The definitions of short forms that can be read. -/
def definitionsFor (specs : List WideText) : List Definition :=
  (definitionsOf specs).toOption.getD []

/-- Short forms that can be read have these definitions. -/
theorem definitionsFor_eq {specs : List WideText} {ds : List Definition}
    (h : definitionsOf specs = .ok ds) : definitionsFor specs = ds := by
  rw [definitionsFor, h]
  rfl

/-- The services of settings with their definitions. -/
def serviceDefinitions (s : Settings) : List (WideText × List Definition) :=
  s.services.entries.map fun e => (e.1, definitionsFor e.2)

/-- The services of settings are defined under their names. -/
theorem names_serviceDefinitions (s : Settings) :
    s.serviceDefinitions.map Prod.fst = s.services.keys := by
  rw [serviceDefinitions, List.map_map]
  rfl

/-- **Settings whose short forms can be read have a catalog**, that of their services over the
predefined ones. -/
theorem exists_catalog (h : ∀ e ∈ s.services.entries, IsAccepted e.2) :
    ∃ c, s.catalog = .ok c ∧ Catalog.predefined.Overlays s.serviceDefinitions c := by
  refine ⟨_, (foldlM_eq_ok (f := fun e : WideText × List WideText => definitionsOf e.2)
    (g := fun e => definitionsFor e.2) (fun _ _ => definitionsFor_eq)
    (fun (c : Catalog) e ds => c.define e.1 ds) s.services.entries .predefined _).2
      ⟨fun e he => ?_, rfl⟩, ?_⟩
  · obtain ⟨ds, hds⟩ := h e he
    rw [hds, definitionsFor_eq hds]
  · have hnodup : (s.serviceDefinitions.map Prod.fst).Nodup := by
      rw [names_serviceDefinitions]
      exact s.services.nodup
    have hgroups : ∀ name, Catalog.predefined.groups.get? name = none := fun _ => rfl
    have hover := Catalog.overlays_foldl hgroups hnodup
    rw [serviceDefinitions, List.foldl_map] at hover
    exact hover

/-- **Loaded settings have a catalog.** In it each service of theirs has the definitions that its
short forms stand for, whatever was predefined for its name. Another name has the definitions that
are predefined for it, or it is in no catalog. Lines that are accepted with this catalog leave the
definitions of each name that they do not define. -/
theorem catalog_of_ofValue {α : Type} [Loadable α] {v : α} (h : ofValue v = .ok s) :
    ∃ c, s.catalog = .ok c ∧
      (∀ e ∈ s.services.entries, ∃ ds,
        e.2.map Definition.parseSpec = ds.map .ok ∧ c.definitions e.1 = .ok ds) ∧
      (∀ name ∉ s.services.keys,
        (∀ ds, Catalog.predefined.services.get? name = some ds → c.definitions name = .ok ds) ∧
        (Catalog.predefined.services.get? name = none →
          c.contains name = false ∧ c.definitions name = .error (.leaf name))) ∧
      ∀ (resolver : Option Resolver) (texts : List String) (configuration : Configuration),
        Configuration.ofLines c resolver texts = .ok configuration →
          ∀ name ds, c.definitions name = .ok ds →
            (∀ n ∈ serviceNames (directivesOf texts), .ofString n ≠ name) →
              configuration.services.definitions name = .ok ds := by
  have haccepted := isAccepted_of_ofValue h
  obtain ⟨c, hc, hover⟩ := exists_catalog haccepted
  refine ⟨c, hc, fun e he => ?_, fun name hname => ⟨fun ds hds => ?_, fun hnone => ?_⟩, ?_⟩
  · obtain ⟨ds, hds⟩ := haccepted e he
    refine ⟨ds, definitionsOf_eq_ok_iff.1 hds, Catalog.definitions_of_get? ?_⟩
    rw [← definitionsFor_eq hds]
    exact hover.defined _ (List.mem_map_of_mem he)
  · apply Catalog.definitions_of_get?
    rw [hover.kept name (names_serviceDefinitions s ▸ hname), hds]
  · have hunknown : c.contains name = false := by
      apply Catalog.contains_eq_false_iff.2
      rw [hover.kept name (names_serviceDefinitions s ▸ hname)]
      exact ⟨hnone, hover.groups name⟩
    exact ⟨hunknown, Catalog.definitions_of_not_contains hunknown⟩
  · intro resolver texts configuration hlines name ds hds hother
    apply Catalog.definitions_of_get?
    rw [(supplies_ofLines hlines).kept name hother]
    exact (Catalog.definitions_eq_ok_iff_of_no_groups hover.groups).1 hds

/-- A service with other ports than the predefined ones, and one of an own name. -/
def ownServices : Value :=
  .mapping [(.text "services", .mapping [(.text "HTTP", .scalar (.text "tcp/8080")),
    (.text "OWN", .list [.scalar (.text " UDP/7000-7001"), .scalar (.text "icmp/8")])])]

/-- The short forms of these services. -/
def ownEntries : List (WideText × List WideText) :=
  [("HTTP", ["tcp/8080"]), ("OWN", [" UDP/7000-7001", "icmp/8"])]

/-- Lines that use the names of services without defining them. -/
def ownLines : List String :=
  ["set group service \"HTTP\" add \"OWN\"", "set service \"x\" protocol tcp",
    "set service \"OWN\" + icmp type 8 code 0", "set group service \"OWN\"",
    "set service \"HTTP\" timeout 30"]

/-- Groups and continuations of the same names leave the definitions as they are. -/
theorem definitions_ownServices :
    ∃ s c configuration, ofValue ownServices = .ok s ∧ s.catalog = .ok c ∧
      Configuration.ofLines c none ownLines = .ok configuration ∧
      configuration.services.definitions "HTTP" = .ok [.tcp 8080 8080] ∧
      configuration.services.definitions "OWN"
        = .ok [.udp 7000 7001, { protocol := "icmp", icmpType := some 8 }] := by
  have hentries : (ofValue ownServices).toOption.map (·.services.entries) = some ownEntries := by
    decide +kernel
  have hlines : (((ofValue ownServices).toOption.bind (·.catalog.toOption)).bind fun c =>
      (Configuration.ofLines c none ownLines).toOption).isSome := by decide +kernel
  have hnames : serviceNames (directivesOf ownLines) = ["x"] := by decide +kernel
  rcases hs : ofValue ownServices with e | s
  · rw [hs] at hentries
    cases hentries
  · obtain ⟨c, hc, hdefined, -, hkept⟩ := catalog_of_ofValue hs
    rw [hs] at hentries hlines
    have hown : s.services.entries = ownEntries := Option.some.inj hentries
    rw [Except.toOption, Option.bind_some, hc, Except.toOption, Option.bind_some] at hlines
    rcases hrun : Configuration.ofLines c none ownLines with e | configuration
    · rw [hrun] at hlines
      cases hlines
    · -- the lines define neither of the services
      have hservice : ∀ e ∈ ownEntries, ∀ ds, definitionsOf e.2 = .ok ds →
          (∀ n ∈ ["x"], WideText.ofString n ≠ e.1) →
            configuration.services.definitions e.1 = .ok ds := by
        intro e he ds hds hother
        obtain ⟨ds', hspecs, hdefs⟩ := hdefined e (hown ▸ he)
        obtain rfl := Except.ok.inj (hds.symm.trans (definitionsOf_eq_ok_iff.2 hspecs))
        exact hkept none ownLines configuration hrun e.1 ds hdefs (hnames ▸ hother)
      refine ⟨s, c, configuration, rfl, hc, hrun, ?_, ?_⟩
      · exact hservice ("HTTP", _) List.mem_cons_self _ (by decide +kernel) (by decide +kernel)
      · exact hservice ("OWN", _) (List.mem_cons_of_mem _ List.mem_cons_self) _
          (by decide +kernel) (by decide +kernel)

end Settings

end ZoneFirewall
