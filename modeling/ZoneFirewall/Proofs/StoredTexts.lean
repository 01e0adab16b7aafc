import ZoneFirewall.Proofs.AddressEntries
import ZoneFirewall.Proofs.PolicyRecords
import ZoneFirewall.Proofs.QuotedTexts
import ZoneFirewall.Proofs.Resolution
import ZoneFirewall.Proofs.ServiceEntries
import ZoneFirewall.Proofs.ServiceGroups
import ZoneFirewall.Script.Compile

/-!
# The characters of what is stored

A configuration is made of what lines tell, and texts go into it as they are. So the kinds of their
characters are those of the texts of directives, whatever the lines do with them.

* `Policy.IsTidy`, `PolicyHeader.isTidy_after`: the policy of a tidy header is tidy after tidy
  changes.
* `Configuration.IsTidy`: what no configuration of a text is without. `isTidy_of_ofText`: **every
  configuration that is read over the predefined services is tidy.**
* `Configuration.IsTidy.resolve`, `Configuration.IsTidy.definitions`: so are the entries behind
  references and the definitions of services.
-/

namespace ZoneFirewall

open Text

/-! ## Policies -/

/-- No text of the policy goes over the end of a line. Only the address to put in may have a double
quote in it. -/
structure Policy.IsTidy (p : Policy) : Prop where
  /-- The name is quotable. -/
  name : AllChars isQuotable p.name
  /-- So is the zone that traffic comes from. -/
  fromZone : AllChars isQuotable p.fromZone
  /-- So is the zone that traffic goes to. -/
  toZone : AllChars isQuotable p.toZone
  /-- So are the sources. -/
  sources : ∀ n ∈ p.sources, AllChars isQuotable n
  /-- So are the destinations. -/
  destinations : ∀ n ∈ p.destinations, AllChars isQuotable n
  /-- So are the services. -/
  services : ∀ n ∈ p.services, AllChars isQuotable n
  /-- So is the application. -/
  application : AllChars isQuotable p.application
  /-- The address to put in is of a line. -/
  natAddress : AllChars isInLine p.natAddress

/-- The text that a change brings is quotable. -/
def PolicyChange.IsTidy : PolicyChange → Prop
  | .application value => AllChars isQuotable value
  | .member _ name => AllChars isQuotable name
  | _ => True

/-- A text that may be left out is of a kind if it is there. -/
theorem allChars_getD {p : Char → Bool} {text : Option String} (h : ∀ t ∈ text, AllChars p t) :
    AllChars p (text.getD "") := by
  rcases text with _ | t
  · exact fun ch hch => by cases hch
  · exact h t rfl

/-- The members that tidy changes add may stand in quotes. -/
theorem PolicyChange.IsTidy.member {cs : List PolicyChange} (hcs : ∀ c ∈ cs, c.IsTidy)
    (kind : MemberKind) : ∀ n ∈ cs.filterMap (·.member? kind), AllChars isQuotable n := by
  intro n hn
  obtain ⟨c, hc, hname⟩ := List.mem_filterMap.1 hn
  have htidy := hcs c hc
  cases c with
  | member k name =>
      simp only [PolicyChange.member?] at hname
      split at hname
      · cases hname
        exact htidy
      · cases hname
  | _ => cases hname

/-- **The policy of a tidy header is tidy after tidy changes.** -/
theorem PolicyHeader.isTidy_after {h : PolicyHeader} {cs : List PolicyChange}
    (hh : (Directive.policyCreate h).IsTidy) (hcs : ∀ c ∈ cs, c.IsTidy) : (h.after cs).IsTidy := by
  have hquoted := hh.quoted
  simp only [Directive.quotedTexts, List.mem_append, Option.mem_toList, List.mem_cons,
    List.not_mem_nil, or_false, or_imp, forall_and, forall_eq] at hquoted
  obtain ⟨hname, hfrom, hto, hsource, hdestination, hservice⟩ := hquoted
  have hmembers := fun kind => PolicyChange.IsTidy.member hcs kind
  refine ⟨allChars_getD hname, hfrom, hto, ?_, ?_, ?_, allChars_getD ?_,
    allChars_getD hh.natAddress⟩
  · exact List.forall_mem_cons.2 ⟨hsource, hmembers .source⟩
  · exact List.forall_mem_cons.2 ⟨hdestination, hmembers .destination⟩
  · exact List.forall_mem_cons.2 ⟨hservice, hmembers .service⟩
  · intro value hvalue
    obtain ⟨c, hc, happlication⟩ := List.mem_filterMap.1 (List.mem_of_getLast? hvalue)
    have htidy := hcs c hc
    cases c with
    | application v =>
        cases happlication
        exact htidy
    | _ => cases happlication

/-- The change that a tidy line makes is tidy. -/
theorem Instruction.IsTidy.change {i : Instruction} (hi : i.IsTidy) {change : Int × PolicyChange}
    (h : i.change? = some change) : change.2.IsTidy := by
  rcases i with d | ⟨id, ⟨kind, name⟩ | option⟩
  · cases d with
    | policyFlag text flag value =>
        cases flag with
        | disable =>
            cases h
            trivial
        | application =>
            cases h
            exact allChars_getD fun t ht => hi.quoted t (Option.mem_toList.2 ht)
    | _ => cases h
  · cases h
    exact hi
  · simp only [change?] at h
    split at h
    · cases h
      trivial
    · cases h

/-! ## Configurations -/

/-- What is stored is of the characters that its place on a line admits. -/
structure Configuration.IsTidy (c : Configuration) : Prop where
  /-- The policies are tidy. -/
  policies : ∀ p ∈ c.policies, p.IsTidy
  /-- The members of address groups are quotable. -/
  members : ∀ zone name o, c.objects.get? zone name = some o →
    ∀ m ∈ o.members, AllChars isQuotable m
  /-- Protocols have no blank in them. -/
  protocols : ∀ name ds, c.services.services.get? name = some ds →
    ∀ d ∈ ds, AllChars isTokenChar d.protocol.joined

variable {services : Catalog} {resolver : Option Resolver} {texts : List String}
  {c : Configuration}

/-- The policies of lines are tidy. -/
theorem isTidy_policies (htexts : ∀ text ∈ texts, AllChars isInLine text)
    (h : Configuration.ofLines services resolver texts = .ok c) : ∀ p ∈ c.policies, p.IsTidy := by
  intro p hp
  rw [policies_ofLines h] at hp
  obtain ⟨header, hheader, rfl⟩ := List.mem_map.1 hp
  refine PolicyHeader.isTidy_after ?_ fun change hchange => ?_
  · obtain ⟨i, hi, hcreate⟩ := List.mem_filterMap.1 hheader
    have htidy := isTidy_of_mem_instructionsOf htexts hi
    rcases i with d | ⟨id, l⟩
    · cases d with
      | policyCreate header' =>
          cases hcreate
          exact htidy
      | _ => cases hcreate
    · cases hcreate
  · obtain ⟨i, hi, hmade⟩ := List.mem_filterMap.1 (mem_valuesFor.1 hchange)
    exact (isTidy_of_mem_instructionsOf htexts hi).change hmade

/-- The members of their groups may stand in quotes. -/
theorem isTidy_members (htexts : ∀ text ∈ texts, AllChars isInLine text)
    (h : Configuration.ofLines services resolver texts = .ok c) {zone name : String}
    {o : AddressObject} (ho : c.objects.get? zone name = some o) :
    ∀ m ∈ o.members, AllChars isQuotable m := by
  intro m hm
  have hshows := (shows_of_ofLines h zone name).present o ho
  rw [hshows.2.2, membersSince] at hm
  obtain ⟨d, hd, hmember⟩ := List.mem_filterMap.1 hm
  have hmem : d ∈ directivesOf texts := (List.rtakeWhile_suffix _ _).subset hd
  have htidy := (isTidy_of_mem_directivesOf htexts hmem).quoted
  cases d with
  | addressGroupAdd z n member =>
      simp only [Directive.member?] at hmember
      split at hmember
      · cases hmember
        exact htidy m (by simp [Directive.quotedTexts])
      · cases hmember
  | _ => cases hmember

/-- Characters are no halves of others. -/
theorem joinHalves_toNat (cs : List Char) : joinHalves (cs.map Char.toNat) = cs := by
  have hfirst : ∀ ch : Char, isFirstHalf ch.toNat = false := by
    intro ch
    have hno := isSurrogate_toNat ch
    simp only [isSurrogate, isFirstHalf, Bool.and_eq_false_iff, decide_eq_false_iff_not] at hno ⊢
    omega
  induction cs with
  | nil => rfl
  | cons ch cs ih =>
      rcases cs with _ | ⟨d, cs⟩
      · simp [joinHalves, charOfPoint_toNat]
      · rw [List.map_cons] at ih
        rw [List.map_cons, List.map_cons, joinHalves, hfirst, ih, charOfPoint_toNat]
        rfl

/-- A text is shown as it is. -/
theorem joined_ofString (text : String) : (WideText.ofString text).joined = text := by
  simp only [WideText.joined, WideText.ofString, WideText.ofChars, joinHalves_toNat,
    String.ofList_toList]

/-- The protocol of a definition is that of its clause. -/
theorem joined_protocol_definition (clause : ServiceClause) :
    clause.definition.protocol.joined = clause.protocol := by
  rcases clause with ⟨protocol, _ | r⟩ | ⟨type, code⟩
  all_goals exact joined_ofString _

/-- A definition that a service gets is that of a clause. -/
theorem exists_clause_of_mem_definitionsIn {ds : List Directive} {name : String} {d : Definition}
    (h : d ∈ definitionsIn name ds) :
    ∃ directive ∈ ds, ∃ clause ∈ directive.clause?, d = clause.definition := by
  obtain ⟨⟨directive, i⟩, hmem, hgives⟩ := List.mem_filterMap.1 (mem_valuesFor.1 h)
  obtain ⟨hlt, hget⟩ := List.mem_zipIdx' hmem
  refine ⟨directive, hget ▸ List.getElem_mem hlt, ?_⟩
  cases directive with
  | service n clause =>
      cases hgives
      exact ⟨clause, rfl, rfl⟩
  | serviceContinue n clause =>
      obtain ⟨last, -, heq⟩ := Option.map_eq_some_iff.1 hgives
      cases heq
      exact ⟨clause, rfl, rfl⟩
  | _ => cases hgives

/-- The protocols of their services are tokens, if those of the services before were. -/
theorem isTidy_protocols (htexts : ∀ text ∈ texts, AllChars isInLine text)
    (hservices : ∀ name ds, services.services.get? name = some ds →
      ∀ d ∈ ds, AllChars isTokenChar d.protocol.joined)
    (h : Configuration.ofLines services resolver texts = .ok c) {name : WideText}
    {ds : List Definition} (hget : c.services.services.get? name = some ds) :
    ∀ d ∈ ds, AllChars isTokenChar d.protocol.joined := by
  obtain ⟨hdefined, hkept⟩ := services_ofLines h
  by_cases hname : ∃ n ∈ serviceNames (directivesOf texts), .ofString n = name
  · obtain ⟨n, hn, rfl⟩ := hname
    have hds := hdefined n hn
    rw [Catalog.definitions_of_get? hget, Except.ok.injEq] at hds
    intro d hd
    rw [hds] at hd
    obtain ⟨directive, hmem, clause, hclause, rfl⟩ := exists_clause_of_mem_definitionsIn hd
    rw [joined_protocol_definition]
    exact (isTidy_of_mem_directivesOf htexts hmem).protocol clause hclause
  · rw [hkept name fun n hn heq => hname ⟨n, hn, heq⟩] at hget
    exact hservices name ds hget

/-- What a table of pairs has for a key stands in one of them. -/
theorem Table.mem_of_get?_ofList {κ ν : Type} [DecidableEq κ] {es : List (κ × ν)} {k : κ} {v : ν}
    (h : (Table.ofList es).get? k = some v) : (k, v) ∈ es := by
  induction es using List.reverseRecOn with
  | nil => cases h
  | append_singleton es e ih =>
      rw [Table.ofList, List.foldl_append, List.foldl_cons, List.foldl_nil, Table.get?_insert] at h
      split at h
      · rename_i hkey
        cases h
        rw [← hkey]
        simp
      · exact List.mem_append_left _ (ih h)

/-- The predefined protocols have no blanks in them. -/
theorem isTidy_predefined {name : WideText} {ds : List Definition}
    (h : Catalog.predefined.services.get? name = some ds) :
    ∀ d ∈ ds, AllChars isTokenChar d.protocol.joined := by
  have hall : ∀ e ∈ predefinedServices, ∀ d ∈ e.2, AllChars isTokenChar d.protocol.joined := by
    decide
  obtain ⟨e, he, heq⟩ := List.mem_map.1 (Table.mem_of_get?_ofList h)
  cases heq
  exact hall e he

/-- **What is read over the predefined services is tidy.** -/
theorem isTidy_of_ofText {text : String}
    (h : Configuration.ofText .predefined resolver text = .ok c) : c.IsTidy := by
  have htexts : ∀ line ∈ splitLines text, AllChars isInLine line :=
    fun _ hline => allChars_of_mem_splitLines hline
  exact ⟨isTidy_policies htexts h, fun _ _ _ ho => isTidy_members htexts h ho,
    fun _ _ hget => isTidy_protocols htexts (fun _ _ => isTidy_predefined) h hget⟩

/-! ## What references and services come to -/

/-- De-duplication adds nothing. -/
theorem Resolved.mem_of_mem_dedup {items : List Resolved} {x : Resolved} (h : x ∈ dedup items) :
    x ∈ items := by
  induction items using List.reverseRecOn with
  | nil => cases h
  | append_singleton items y ih =>
      rw [dedup_eq_foldl, List.foldl_append, List.foldl_cons, List.foldl_nil, ← dedup_eq_foldl,
        keep] at h
      split at h
      · exact List.mem_append_left _ (ih h)
      · rcases List.mem_append.1 h with h | h
        · exact List.mem_append_left _ (ih h)
        · exact List.mem_append_right _ h

/-- A leaf has the name that leads to it: one of the names to begin with, or a member of a group. -/
theorem AddressBook.Flattens.forall_name {b : AddressBook} {zone : String} {names : List String}
    {items : List Resolved} {P : String → Prop} (h : b.Flattens zone names items)
    (hmembers : ∀ name o, b.get? zone name = some o → ∀ m ∈ o.members, P m)
    (hnames : ∀ n ∈ names, P n) : ∀ item ∈ items, P item.name := by
  induction h with
  | nil => nofun
  | wildcard _ _ ih =>
      obtain ⟨hname, hrest⟩ := List.forall_mem_cons.1 hnames
      exact List.forall_mem_cons.2 ⟨hname, ih hrest⟩
  | inline _ _ _ ih =>
      obtain ⟨hname, hrest⟩ := List.forall_mem_cons.1 hnames
      exact List.forall_mem_cons.2 ⟨hname, ih hrest⟩
  | unknown _ _ _ ih => exact ih (List.forall_mem_cons.1 hnames).2
  | plain _ _ _ _ _ ih =>
      obtain ⟨hname, hrest⟩ := List.forall_mem_cons.1 hnames
      exact List.forall_mem_cons.2 ⟨hname, ih hrest⟩
  | group _ hget _ _ _ ihInner ihRest =>
      exact List.forall_mem_append.2
        ⟨ihInner (hmembers _ _ hget), ihRest (List.forall_mem_cons.1 hnames).2⟩

/-- A definition behind some names is one that a service has. -/
theorem Catalog.Flattens.exists_service {c : Catalog} {names : List WideText}
    {ds : List Definition} (h : c.Flattens names ds) :
    ∀ d ∈ ds, ∃ name own, c.services.get? name = some own ∧ d ∈ own := by
  induction h with
  | nil => nofun
  | service hget _ ih => exact List.forall_mem_append.2 ⟨fun d hd => ⟨_, _, hget, hd⟩, ih⟩
  | group _ _ _ _ ihInner ihRest => exact List.forall_mem_append.2 ⟨ihInner, ihRest⟩

namespace Configuration.IsTidy

/-- The entries behind a reference with a quotable name have quotable names. -/
theorem resolve (hc : c.IsTidy) {r : Reference} {items : List Resolved}
    (hr : AllChars isQuotable r.name) (h : c.resolve r = .ok items) :
    ∀ item ∈ items, AllChars isQuotable item.name := by
  rw [Configuration.resolve] at h
  rcases hobjects : c.objects.resolve r.zone r.name with cycle | found
  · rw [hobjects] at h
    cases h
  · rw [hobjects] at h
    cases h
    obtain ⟨leaves, hleaves, hdedup⟩ := AddressBook.flattens_of_resolve hobjects
    rw [← Resolved.dedup_eq_eraseDupsBy] at hdedup
    intro item hitem
    rw [hdedup] at hitem
    exact hleaves.forall_name (hc.members r.zone) (List.forall_mem_singleton.2 hr) item
      (Resolved.mem_of_mem_dedup hitem)

/-- The definitions of a service have protocols without blanks. -/
theorem definitions (hc : c.IsTidy) {service : String} {ds : List Definition}
    (h : c.services.definitions service = .ok ds) :
    ∀ d ∈ ds, AllChars isTokenChar d.protocol.joined := by
  intro d hd
  obtain ⟨name, own, hget, hmem⟩ := (Catalog.flattens_of_definitions h).exists_service d hd
  exact hc.protocols name own hget d hmem

end Configuration.IsTidy

end ZoneFirewall
