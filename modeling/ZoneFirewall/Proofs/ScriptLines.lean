import ZoneFirewall.Proofs.AddressLists
import ZoneFirewall.Proofs.StoredTexts
import ZoneFirewall.Script.Printer

/-!
# The lines of a script

Names of a configuration go into a script as they are: into the fields and the comments of
statements, and into the line in front of each block. What keeps them from ending a line or a
comment there is the characters that they can have.

* `splitLines_joinLines`: **a text of lines splits into these lines.**
* `Statement`: the fields, each a name and a value, and the comment of a line that adds something.
  `ListEntry.statement`, `Rule.statement`: both kinds of them.
* `IsTidyAssignment`: that only a value made of names may have blanks in it.
  `Configuration.isTidy_of_compile`: **all statements of a script are tidy.**
* `lines_of_compile`: **nothing breaks out of a script.** Its text has the lines that were written,
  and each of them is a header, a comment, empty, or a statement with one quoted text at its end.
-/

namespace ZoneFirewall

open Text

/-! ## Splitting lines -/

namespace Text

/-- A line feed ends the first line if no character before it ends one. -/
theorem splitLinesFrom_append {cs : List Char} (h : ∀ ch ∈ cs, isInLine ch)
    (current rest : List Char) : splitLinesFrom current (cs ++ '\n' :: rest)
      = (current.reverse ++ cs) :: splitLinesFrom [] rest := by
  induction cs generalizing current with
  | nil =>
      rw [List.nil_append, List.append_nil, splitLinesFrom, if_pos (by decide)]
      intro _ hne
      cases hne
  | cons ch cs ih =>
      obtain ⟨hch, hcs⟩ := List.forall_mem_cons.1 h
      have hno : isLineEnd ch = false := by simpa [isInLine] using hch
      rw [List.cons_append, splitLinesFrom, if_neg (by simp [hno]), ih hcs]
      · simp
      · rintro _ rfl
        cases hno

/-- **A text of lines splits into these lines.** -/
theorem splitLines_joinLines {lines : List String} (h : ∀ line ∈ lines, AllChars isInLine line) :
    splitLines (joinLines lines) = lines := by
  rw [splitLines, joinLines, String.toList_ofList]
  induction lines with
  | nil => rfl
  | cons line lines ih =>
      obtain ⟨hline, hlines⟩ := List.forall_mem_cons.1 h
      rw [List.flatMap_cons, List.append_assoc, List.singleton_append,
        splitLinesFrom_append hline, List.map_cons, ih hlines]
      simp

/-! ## Numbers -/

/-- The usual digits may stand in a token. -/
theorem isTokenChar_of_isAsciiDigit {ch : Char} (h : ch.isDigit) : isTokenChar ch := by
  have hrange : 48 ≤ ch.toNat ∧ ch.toNat ≤ 57 := by
    simp only [Char.isDigit, Bool.and_eq_true, decide_eq_true_eq, ge_iff_le,
      UInt32.le_iff_toNat_le] at h
    exact h
  have hquote : ch ≠ '"' := by
    rintro rfl
    exact absurd hrange.1 (by decide)
  simp only [isTokenChar, isBlank, Bool.and_eq_true, Bool.not_eq_true', bne_iff_ne, ne_eq, hquote,
    not_false_eq_true, and_true, Bool.or_eq_false_iff, Bool.and_eq_false_iff,
    decide_eq_false_iff_not, beq_eq_false_iff_ne]
  omega

/-- The text of a natural number is a token. -/
theorem allChars_nat (n : Nat) : AllChars isTokenChar (toString n) := by
  show AllChars isTokenChar n.repr
  rw [Nat.repr_eq_ofList_toDigits, allChars_ofList]
  exact fun ch hch => isTokenChar_of_isAsciiDigit
    (Nat.isDigit_of_mem_toDigits (b := 10) (by decide) (by decide) hch)

/-- So is that of an integer: its sign may stand in one. -/
theorem allChars_int (n : Int) : AllChars isTokenChar (toString n) := by
  rcases n with n | n
  · exact allChars_nat n
  · exact allChars_append.2 ⟨by decide, allChars_nat (n + 1)⟩

end Text

/-- So is that of an address. -/
theorem Address.allChars_text (x : Address) : AllChars isTokenChar x.text := by
  refine allChars_intercalate (by decide) fun s hs => ?_
  obtain ⟨o, -, rfl⟩ := List.mem_map.1 hs
  exact allChars_nat _

/-- So is that of an address with its prefix length. -/
theorem Interface.allChars_text (i : Interface) : AllChars isTokenChar i.text := by
  simp only [Interface.text, allChars_append]
  exact ⟨⟨i.address.allChars_text, by decide⟩, allChars_nat _⟩

/-- So is that of a range of ports. -/
theorem PortRange.allChars_text (r : PortRange) : AllChars isTokenChar r.text := by
  unfold PortRange.text
  split
  · exact allChars_int _
  · simp only [allChars_append]
    exact ⟨⟨allChars_int _, by decide⟩, allChars_int _⟩

/-! ## Statements -/

/-- A name and a value as a field of a statement. -/
def fieldText (f : String × String) : String := f.1 ++ "=" ++ f.2

/-- What a line adds: fields, each with a name and a value, and a comment. -/
structure Statement where
  /-- The names and values of the fields. -/
  assignments : List (String × String)
  /-- The comment. -/
  comment : String

/-- The words of the statement before its comment. -/
def Statement.words (s : Statement) : List String := "add" :: s.assignments.map fieldText

/-- The line of the statement. -/
def Statement.text (s : Statement) : String :=
  " ".intercalate (s.words ++ [commentField s.comment])

/-- The last of some texts follows the others with a mark in between. -/
theorem intercalate_append_singleton (mark s t : String) (texts : List String) :
    mark.intercalate (s :: texts ++ [t]) = mark.intercalate (s :: texts) ++ mark ++ t := by
  induction texts generalizing s with
  | nil => simp
  | cons u texts ih =>
      rw [List.cons_append, List.cons_append, String.intercalate_cons_cons, ← List.cons_append, ih,
        String.intercalate_cons_cons]
      simp only [String.append_assoc]

/-- The comment stands in double quotes at the end of a statement. -/
theorem Statement.text_eq (s : Statement) :
    s.text = " ".intercalate s.words ++ " comment=\"" ++ s.comment ++ "\"" := by
  have hmark : " comment=\"" = " " ++ "comment=\"" := rfl
  rw [text, words, intercalate_append_singleton, commentField, hmark]
  simp only [String.append_assoc]

/-- The statement for an entry of a list. -/
def ListEntry.statement (e : ListEntry) : Statement where
  assignments := [("list", e.list), ("address", e.address.text)]
  comment := e.comment

/-- An entry of a list is written as its statement. -/
theorem ListEntry.text_eq (e : ListEntry) : e.text = e.statement.text := rfl

/-- The field for one of the addresses. -/
def AddressMatch.assignments (side : String) : AddressMatch → List (String × String)
  | .any => []
  | .network address => [(side ++ "-address", address.text)]
  | .list name => [(side ++ "-address-list", name)]

/-- The field for one of the ports. -/
def portAssignments (side : String) (ranges : List PortRange) : List (String × String) :=
  if ranges = [] then [] else [(side ++ "-port", ",".intercalate (ranges.map (·.text)))]

/-- The fields of a rule: chain, addresses, protocol, ports, ICMP messages, action and log. -/
def Rule.assignments (r : Rule) : List (String × String) :=
  [("chain", r.chain)] ++ r.source.assignments "src" ++ r.destination.assignments "dst"
  ++ (if r.protocol = "" then [] else [("protocol", r.protocol.joined)])
  ++ portAssignments "src" r.sourcePorts ++ portAssignments "dst" r.destinationPorts
  ++ (if r.protocol = "icmp" then [("icmp-options", icmpEchoOptions)] else [])
  ++ [("action", r.verdict.word)] ++ (if r.log then [("log", "yes")] else [])

/-- The fields of a side are those of its assignments. -/
theorem AddressMatch.fields_eq (side : String) (m : AddressMatch) :
    m.fields side = (m.assignments side).map fieldText := by
  rcases m with _ | address | name
  · rfl
  · simp [AddressMatch.fields, AddressMatch.assignments, fieldText, String.append_assoc]
  · simp [AddressMatch.fields, AddressMatch.assignments, fieldText, String.append_assoc]

/-- So are the fields of ports. -/
theorem portFields_eq (side : String) (ranges : List PortRange) :
    portFields side ranges = (portAssignments side ranges).map fieldText := by
  unfold portFields portAssignments
  split
  · rfl
  · simp [fieldText, String.append_assoc]

/-- So are all fields of a rule. -/
theorem Rule.fields_eq (r : Rule) : r.fields = r.assignments.map fieldText := by
  simp only [Rule.fields, Rule.protocolFields, Rule.assignments, AddressMatch.fields_eq,
    portFields_eq, List.map_append, List.append_assoc, apply_ite (List.map fieldText),
    List.map_cons, List.map_nil]
  rfl

/-- The statement for a rule. -/
def Rule.statement (r : Rule) : Statement := ⟨r.assignments, r.comment⟩

/-- A rule is written as its statement. -/
theorem Rule.text_eq (r : Rule) : r.text = r.statement.text := by
  rw [Rule.text, Rule.fields_eq]
  rfl

/-- The statements of a script: those for its lists, then those for its rules. -/
def Script.statements (s : Script) : List Statement :=
  s.lists.map (·.statement) ++ s.rules.map (·.statement)

/-- The statements are those of the entries and those of the rules. -/
theorem Script.mem_statements {s : Script} {statement : Statement} : statement ∈ s.statements ↔
    (∃ e ∈ s.lists, e.statement = statement) ∨ ∃ r ∈ s.rules, r.statement = statement := by
  simp only [statements, List.mem_append, List.mem_map]

/-! ## Fields of a script -/

/-- The names of fields, in the order in which they are written. -/
def fieldNames : List String :=
  ["list", "address", "chain", "src-address", "src-address-list", "dst-address", "dst-address-list",
    "protocol", "src-port", "dst-port", "icmp-options", "action", "log"]

/-- The names of fields whose values are names of zones and references. -/
def nameFields : List String := ["list", "chain", "src-address-list", "dst-address-list"]

/-- A field has one of the names of fields and a value without double quotes and ends of lines. Only
a value of names may have blanks. -/
structure IsTidyAssignment (f : String × String) : Prop where
  /-- The name is that of a field. -/
  name : f.1 ∈ fieldNames
  /-- The value has no double quote and is of one line. -/
  value : AllChars isQuotable f.2
  /-- It has no blank, unless it is made of names. -/
  token : f.1 ∉ nameFields → AllChars isTokenChar f.2

/-- A token is tidy in every field. -/
theorem IsTidyAssignment.of_token {name value : String} (hname : name ∈ fieldNames)
    (hvalue : AllChars isTokenChar value) : IsTidyAssignment (name, value) :=
  ⟨hname, hvalue.quotable, fun _ => hvalue⟩

/-- In the fields for names, so is what may stand in quotes. -/
theorem IsTidyAssignment.of_names {name value : String} (hname : name ∈ nameFields)
    (hvalue : AllChars isQuotable value) : IsTidyAssignment (name, value) := by
  have hsub : ∀ n ∈ nameFields, n ∈ fieldNames := by decide
  exact ⟨hsub name hname, hvalue, fun hnot => absurd hname hnot⟩

/-- A tidy field does not go beyond its place on a line. -/
theorem IsTidyAssignment.text {f : String × String} (h : IsTidyAssignment f) :
    AllChars isQuotable (fieldText f) := by
  have hnames : ∀ n ∈ fieldNames, AllChars isQuotable n := by decide
  simp only [fieldText, allChars_append]
  exact ⟨⟨hnames f.1 h.name, by decide⟩, h.value⟩

/-- A statement is tidy if its fields are, and its comment has no double quote in it. -/
structure Statement.IsTidy (s : Statement) : Prop where
  /-- The fields are tidy. -/
  assignments : ∀ f ∈ s.assignments, IsTidyAssignment f
  /-- The comment is quotable. -/
  comment : AllChars isQuotable s.comment

/-- Names that may stand in quotes may do so when they are joined. -/
theorem allChars_joinNames {first second : String} (hfirst : AllChars isQuotable first)
    (hsecond : AllChars isQuotable second) : AllChars isQuotable (joinNames first second) := by
  simp only [joinNames, allChars_append]
  exact ⟨⟨hfirst, by decide⟩, hsecond⟩

/-- The fields of ports are tidy. -/
theorem isTidy_portAssignments {side : String} (hside : side ++ "-port" ∈ fieldNames)
    (ranges : List PortRange) : ∀ f ∈ portAssignments side ranges, IsTidyAssignment f := by
  unfold portAssignments
  split
  · nofun
  · refine List.forall_mem_singleton.2 (.of_token hside ?_)
    refine allChars_intercalate (by decide) fun s hs => ?_
    obtain ⟨r, -, rfl⟩ := List.mem_map.1 hs
    exact r.allChars_text

/-- What is asked of an address makes tidy fields if the name of its list is quotable. -/
theorem AddressMatch.isTidy_assignments {side : String} {m : AddressMatch}
    (hnetwork : side ++ "-address" ∈ fieldNames) (hlist : side ++ "-address-list" ∈ nameFields)
    (hm : ∀ name, m = .list name → AllChars isQuotable name) :
    ∀ f ∈ m.assignments side, IsTidyAssignment f := by
  rcases m with _ | address | name
  · nofun
  · exact List.forall_mem_singleton.2 (.of_token hnetwork address.allChars_text)
  · exact List.forall_mem_singleton.2 (.of_names hlist (hm name rfl))

/-- So are those of a rule, if its names may stand in quotes and its protocol is a token. -/
theorem Rule.isTidy_assignments {r : Rule} (hchain : AllChars isQuotable r.chain)
    (hsource : ∀ name, r.source = .list name → AllChars isQuotable name)
    (hdestination : ∀ name, r.destination = .list name → AllChars isQuotable name)
    (hprotocol : AllChars isTokenChar r.protocol.joined) :
    ∀ f ∈ r.assignments, IsTidyAssignment f := by
  have hverdict : ∀ v : Verdict, AllChars isTokenChar v.word := by
    intro v
    cases v <;> decide
  simp only [Rule.assignments, List.forall_mem_append]
  refine ⟨⟨⟨⟨⟨⟨⟨⟨?_, ?_⟩, ?_⟩, ?_⟩, ?_⟩, ?_⟩, ?_⟩, ?_⟩, ?_⟩
  · exact List.forall_mem_singleton.2 (.of_names (by decide) hchain)
  · exact AddressMatch.isTidy_assignments (by decide) (by decide) hsource
  · exact AddressMatch.isTidy_assignments (by decide) (by decide) hdestination
  · split
    · nofun
    · exact List.forall_mem_singleton.2 (.of_token (by decide) hprotocol)
  · exact isTidy_portAssignments (by decide) _
  · exact isTidy_portAssignments (by decide) _
  · split
    · exact List.forall_mem_singleton.2 (.of_token (by decide) (by decide))
    · nofun
  · exact List.forall_mem_singleton.2 (.of_token (by decide) (hverdict _))
  · split
    · exact List.forall_mem_singleton.2 (.of_token (by decide) (by decide))
    · nofun

namespace Configuration

variable {c : Configuration} {policies : List Policy} {p : Policy}

/-- A reference of a tidy policy is quotable in both parts. -/
theorem isQuotable_of_mem_references (hp : p.IsTidy) {r : Reference} (hr : r ∈ p.references) :
    AllChars isQuotable r.zone ∧ AllChars isQuotable r.name := by
  rcases List.mem_append.1 hr with hr | hr
  · obtain ⟨n, hn, rfl⟩ := List.mem_map.1 hr
    exact ⟨hp.fromZone, hp.sources n hn⟩
  · obtain ⟨n, hn, rfl⟩ := List.mem_map.1 hr
    exact ⟨hp.toZone, hp.destinations n hn⟩

/-- An endpoint is named by its reference, or by the list of the reference. -/
theorem isQuotable_of_mem_endpointsOf {refs : List Reference}
    (hrefs : ∀ r ∈ refs, AllChars isQuotable r.zone ∧ AllChars isQuotable r.name) {e : Endpoint}
    (he : e ∈ c.endpointsOf refs) :
    AllChars isQuotable e.label ∧
      ∀ name, e.addressMatch = .list name → AllChars isQuotable name := by
  obtain ⟨r, hr, hof⟩ := mem_endpointsOf.1 he
  obtain ⟨hzone, hname⟩ := hrefs r hr
  have hlabel : AllChars isQuotable e.label := by
    generalize c.entriesOf r = items at hof
    rcases items with _ | ⟨item, _ | ⟨item', items⟩⟩
    · cases hof
    · cases hof
      exact hname
    · cases hof
      exact allChars_joinNames hzone hname
  refine ⟨hlabel, fun name hlist => ?_⟩
  rw [Endpoint.addressMatch_eq_list hlist] at hlabel
  exact hlabel

/-- The protocols of the passes of a service have no blanks in them. -/
theorem isTidy_passesOf (hc : c.IsTidy) {policy : Int} {service : String}
    (h : c.servicePasses policy service = .ok (c.passesOf policy service)) :
    ∀ protocol ∈ (c.passesOf policy service).1, AllChars isTokenChar protocol.joined := by
  have hempty : AllChars isTokenChar (WideText.ofString "").joined := by decide
  by_cases hany : service = anyService
  · subst hany
    exact List.forall_mem_singleton.2 hempty
  · obtain ⟨ds, hds, hpasses⟩ := (servicePasses_eq_ok hany).1 h
    rw [hpasses]
    intro protocol hprotocol
    rcases mem_protocolsOf.1 hprotocol with ⟨-, rfl⟩ | ⟨d, hd, rfl⟩
    · exact hempty
    · exact hc.definitions hds d hd

/-- The comment of a rule has no double quotes, the name of the policy having lost its own. -/
theorem isQuotable_ruleComment (hp : p.IsTidy) {source destination : Endpoint}
    (hsource : AllChars isQuotable source.label)
    (hdestination : AllChars isQuotable destination.label) :
    AllChars isQuotable (ruleComment p source destination) := by
  have hname : AllChars isQuotable
      (if p.name = "" then "" else " - " ++ String.ofList (p.name.toList.filter (· ≠ '"'))) := by
    split
    · decide
    · exact allChars_append.2 ⟨by decide, allChars_ofList.2 fun ch hch =>
        hp.name ch (List.mem_filter.1 hch).1⟩
  simp only [ruleComment, allChars_append]
  exact ⟨⟨⟨⟨⟨⟨by decide, (allChars_int _).quotable⟩, hname⟩, by decide⟩, hsource⟩, by decide⟩,
    hdestination⟩

/-- **The statements for the rules of a tidy configuration are tidy.** -/
theorem isTidy_of_mem_rulesOf (hc : c.IsTidy) (hp : p.IsTidy) (hcompiles : c.Compiles p) {r : Rule}
    (hr : r ∈ c.rulesOf p) : r.statement.IsTidy := by
  obtain ⟨service, hservice, protocol, hprotocol, source, hsource, destination, hdestination,
    rfl⟩ := mem_rulesOf.1 hr
  have hsource := isQuotable_of_mem_endpointsOf (fun r hr =>
    isQuotable_of_mem_references hp (List.mem_append_left _ hr)) hsource
  have hdestination := isQuotable_of_mem_endpointsOf (fun r hr =>
    isQuotable_of_mem_references hp (List.mem_append_right _ hr)) hdestination
  have hprotocol := isTidy_passesOf hc (hcompiles.services service hservice) protocol hprotocol
  exact ⟨Rule.isTidy_assignments (allChars_joinNames hp.fromZone hp.toZone) hsource.2
    hdestination.2 hprotocol, isQuotable_ruleComment hp hsource.1 hdestination.1⟩

/-- **So are those for the entries of its lists.** -/
theorem isTidy_of_mem_listEntries (hc : c.IsTidy) (hp : p.IsTidy) {ref : Reference}
    (href : ref ∈ p.references) (hresolve : c.resolve ref = .ok (c.entriesOf ref)) {e : ListEntry}
    (he : e ∈ listEntries ref (c.entriesOf ref)) : e.statement.IsTidy := by
  obtain ⟨hzone, hname⟩ := isQuotable_of_mem_references hp href
  obtain ⟨item, hitem, rfl⟩ := List.mem_map.1 he
  refine ⟨?_, hc.resolve hname hresolve item hitem⟩
  refine List.forall_mem_cons.2 ⟨.of_names (by decide) (allChars_joinNames hzone hname), ?_⟩
  exact List.forall_mem_singleton.2 (.of_token (by decide) item.address.allChars_text)

/-- The record of a tidy policy is on one line. -/
theorem isInLine_describe (hp : p.IsTidy) : AllChars isInLine p.describe := by
  have htruth : ∀ b, AllChars isInLine (Policy.truthWord b) := by decide
  have hnat : ∀ m : NatMode, AllChars isInLine m.words := by
    intro m
    cases m <;> decide
  have haction : ∀ a : Action, AllChars isInLine a.word := by
    intro a
    cases a <;> decide
  have hnames : ∀ names : List String, (∀ n ∈ names, AllChars isQuotable n) →
      AllChars isInLine (" ".intercalate names) := fun names h =>
    allChars_intercalate (by decide) fun n hn => (h n hn).inLine
  have hnumber : ∀ n : Int, AllChars isInLine (toString n) := fun n =>
    (allChars_int n).quotable.inLine
  unfold Policy.describe
  refine allChars_intercalate (by decide) ?_
  simp only [List.forall_mem_cons, List.not_mem_nil, false_imp_iff, implies_true, and_true,
    allChars_append]
  exact ⟨⟨by decide, hnumber _⟩, ⟨by decide, hp.name.inLine⟩, ⟨by decide, htruth _⟩,
    ⟨by decide, hp.fromZone.inLine⟩, ⟨by decide, hp.toZone.inLine⟩,
    ⟨⟨by decide, hnames _ hp.sources⟩, by decide⟩,
    ⟨⟨by decide, hnames _ hp.destinations⟩, by decide⟩,
    ⟨⟨by decide, hnames _ hp.services⟩, by decide⟩, ⟨by decide, hp.application.inLine⟩,
    ⟨by decide, hnat _⟩, ⟨by decide, hp.natAddress⟩, ⟨by decide, hnumber _⟩,
    ⟨by decide, haction _⟩, ⟨by decide, htruth _⟩, ⟨by decide, htruth _⟩⟩

/-- **All statements of a script are tidy.** -/
theorem isTidy_of_compile {script : Script} (hc : c.IsTidy) (hsub : policies ⊆ c.policies)
    (h : c.compile policies = .ok script) : ∀ s ∈ script.statements, s.IsTidy := by
  obtain ⟨hall, rfl⟩ := compile_eq_ok.1 h
  have htidy : ∀ p ∈ active policies, p.IsTidy := fun p hp =>
    hc.policies p (hsub (List.mem_filter.1 hp).1)
  intro s hs
  rcases Script.mem_statements.1 hs with ⟨e, he, rfl⟩ | ⟨r, hr, rfl⟩
  · rw [lists_scriptOf] at he
    obtain ⟨ref, href, he⟩ := List.mem_flatMap.1 he
    obtain ⟨p, hp, href⟩ := List.mem_flatMap.1 (mem_listReferences.1 href).1
    exact isTidy_of_mem_listEntries hc (htidy p hp) href ((hall p hp).references ref href) he
  · rw [rules_scriptOf] at hr
    obtain ⟨p, hp, hr⟩ := List.mem_flatMap.1 hr
    exact isTidy_of_mem_rulesOf hc (htidy p hp) (hall p hp) hr

end Configuration

/-! ## Lines of a script -/

/-- A line of a script is a header, empty, the comment of a block or a statement. -/
theorem Script.mem_lines {s : Script} {line : String} (h : line ∈ s.lines) :
    line = listsHeader ∨ line = filterHeader ∨ line = "" ∨
      (∃ b ∈ s.blocks, line = "# " ++ b.header) ∨
      ∃ statement ∈ s.statements, line = statement.text := by
  simp only [Script.lines, listLines, ruleLines, PolicyRules.lines, List.mem_append, List.mem_cons,
    List.mem_map, List.mem_flatMap, List.not_mem_nil, or_false] at h
  rcases h with ((rfl | ⟨e, he, rfl⟩) | rfl | rfl | rfl) | ⟨b, hb, (rfl | ⟨r, hr, rfl⟩) | rfl⟩
  · exact .inl rfl
  · exact .inr (.inr (.inr (.inr ⟨_, mem_statements.2 (.inl ⟨e, he, rfl⟩), e.text_eq⟩)))
  · exact .inr (.inr (.inl rfl))
  · exact .inr (.inr (.inl rfl))
  · exact .inr (.inl rfl)
  · exact .inr (.inr (.inr (.inl ⟨b, hb, rfl⟩)))
  · have hrules : r ∈ s.rules := List.mem_flatMap.2 ⟨b, hb, hr⟩
    exact .inr (.inr (.inr (.inr ⟨_, mem_statements.2 (.inr ⟨r, hrules, rfl⟩), r.text_eq⟩)))
  · exact .inr (.inr (.inl rfl))

/-- The line begins with a text. -/
def StartsWith (front line : String) : Prop := front.toList <+: line.toList

instance (front line : String) : Decidable (StartsWith front line) :=
  inferInstanceAs (Decidable (_ <+: _))

/-- The line has one quoted text, its comment, which ends the line. -/
def HasQuotedComment (line : String) : Prop :=
  line.toList.count '"' = 2 ∧ ∃ before comment, line = before ++ " comment=\"" ++ comment ++ "\"" ∧
    '"' ∉ before.toList ∧ '"' ∉ comment.toList

/-- What a line holds stays where it was put. -/
structure IsContained (line : String) : Prop where
  /-- Nothing ends the line before its end. -/
  isInLine : AllChars isInLine line
  /-- The line is a header, empty, a comment or a statement. -/
  kind : line = listsHeader ∨ line = filterHeader ∨ line = "" ∨ StartsWith "# " line ∨
    StartsWith "add " line
  /-- Nothing ends the comment of a statement before its end. -/
  quoted : StartsWith "add " line → HasQuotedComment line

/-- A statement adds something. -/
theorem startsWith_statement (s : Statement) : StartsWith "add " s.text := by
  obtain ⟨field, rest, hrest⟩ :
      ∃ field rest, s.assignments.map fieldText ++ [commentField s.comment] = field :: rest :=
    List.exists_cons_of_ne_nil (by simp)
  have hwords : s.text = "add" ++ " " ++ " ".intercalate (field :: rest) := by
    rw [Statement.text, Statement.words, List.cons_append, hrest, String.intercalate_cons_cons]
  refine ⟨(" ".intercalate (field :: rest)).toList, ?_⟩
  rw [hwords, String.toList_append]
  rfl

/-- There is no quote in a text that may stand in quotes. -/
theorem not_mem_of_allChars {s : String} (h : AllChars isQuotable s) : '"' ∉ s.toList := by
  intro hmem
  cases h '"' hmem

namespace Statement.IsTidy

variable {s : Statement}

/-- The words of a tidy statement may stand in quotes. -/
theorem isQuotable_words (h : s.IsTidy) : AllChars isQuotable (" ".intercalate s.words) := by
  refine allChars_intercalate (by decide) (List.forall_mem_cons.2 ⟨by decide, fun word hword => ?_⟩)
  obtain ⟨f, hf, rfl⟩ := List.mem_map.1 hword
  exact (h.assignments f hf).text

/-- A tidy statement is on one line. -/
theorem isInLine (h : s.IsTidy) : AllChars isInLine s.text := by
  simp only [text_eq, allChars_append]
  exact ⟨⟨⟨h.isQuotable_words.inLine, by decide⟩, h.comment.inLine⟩, by decide⟩

/-- A tidy statement has two double quotes, around its comment and at its end. -/
theorem hasQuotedComment (h : s.IsTidy) : HasQuotedComment s.text := by
  have hbefore := not_mem_of_allChars h.isQuotable_words
  have hcomment := not_mem_of_allChars h.comment
  rw [text_eq]
  refine ⟨?_, _, _, rfl, hbefore, hcomment⟩
  simp only [String.toList_append, List.count_append, List.count_eq_zero_of_not_mem hbefore,
    List.count_eq_zero_of_not_mem hcomment]
  decide

/-- A tidy statement holds what was put there. -/
theorem isContained (h : s.IsTidy) : IsContained s.text where
  isInLine := h.isInLine
  kind := .inr (.inr (.inr (.inr (startsWith_statement s))))
  quoted _ := h.hasQuotedComment

end Statement.IsTidy

/-- So does the comment in front of a block, if its header is on one line. -/
theorem isContained_header {header : String} (h : AllChars isInLine header) :
    IsContained ("# " ++ header) where
  isInLine := allChars_append.2 ⟨by decide, h⟩
  kind := .inr (.inr (.inr (.inl ⟨header.toList, by rw [String.toList_append]⟩)))
  quoted hadd := by
    obtain ⟨rest, hrest⟩ := hadd
    rw [String.toList_append] at hrest
    cases hrest

/-- **Nothing breaks out of a script.** If a text is read over the predefined services and some of
its policies compile, the text of the script splits into the lines that were written. Each of these
is a header, empty, a comment or a statement, and a statement has exactly two double quotes, around
its comment, of which the second ends the line. -/
theorem lines_of_compile {resolver : Option Resolver} {text : String} {c : Configuration}
    {policies : List Policy} {script : Script}
    (hread : Configuration.ofText .predefined resolver text = .ok c)
    (hsub : policies ⊆ c.policies) (hcompile : c.compile policies = .ok script) :
    splitLines script.text = script.lines ∧ ∀ line ∈ script.lines, IsContained line := by
  have hc : c.IsTidy := isTidy_of_ofText hread
  have htidy := Configuration.isTidy_of_compile hc hsub hcompile
  have hlines : ∀ line ∈ script.lines, IsContained line := by
    intro line hline
    rcases Script.mem_lines hline with rfl | rfl | rfl | ⟨b, hb, rfl⟩ | ⟨s, hs, rfl⟩
    · exact ⟨by decide, .inl rfl, fun hadd => absurd hadd (by decide)⟩
    · exact ⟨by decide, .inr (.inl rfl), fun hadd => absurd hadd (by decide)⟩
    · exact ⟨by decide, .inr (.inr (.inl rfl)), fun hadd => absurd hadd (by decide)⟩
    · obtain ⟨-, rfl⟩ := Configuration.compile_eq_ok.1 hcompile
      obtain ⟨p, hp, rfl⟩ := List.mem_map.1 hb
      exact isContained_header (Configuration.isInLine_describe
        (hc.policies p (hsub (List.mem_filter.1 hp).1)))
    · exact (htidy s hs).isContained
  exact ⟨splitLines_joinLines fun line hline => (hlines line hline).isInLine, hlines⟩

/-! ### A zone with a space in its name -/

/-- A policy for everything that comes from a zone with a space in its name. -/
def webZoneText : String :=
  "set policy id 1 from \"Web Zone\" to \"Untrust\" \"any\" \"any\" \"ANY\" permit\n"

/-- What a text is read as may be found out by reading it. -/
theorem exists_ofText {text : String} {P : Configuration → Prop} [DecidablePred P]
    (h : (Configuration.ofText .predefined none text).toOption.any (P ·)) :
    ∃ c, Configuration.ofText .predefined none text = .ok c ∧ P c := by
  generalize Configuration.ofText .predefined none text = r at h ⊢
  rcases r with e | c
  · cases h
  · exact ⟨c, rfl, of_decide_eq_true h⟩

/-- The text is read as one policy. -/
theorem policies_webZone : ∃ c, Configuration.ofText .predefined none webZoneText = .ok c ∧
    c.policies = [Configuration.passToAny ⟨"Web Zone", "any"⟩ "ANY"] :=
  exists_ofText (by decide +kernel)

/-- A policy for everything has one rule, without a constraint on addresses, protocol and ports. -/
theorem compile_anyToAny (c : Configuration) (zone : String) : ∃ script,
    c.compile [Configuration.passToAny ⟨zone, "any"⟩ "ANY"] = .ok script ∧ script.rules = [
      { chain := joinNames zone "Untrust", source := .any, destination := .any, protocol := "",
        sourcePorts := [], destinationPorts := [], verdict := .accept, log := false,
        comment := "ID: 1 - any -> any" }] := by
  refine ⟨_, Configuration.compile_passToAny (Configuration.resolve_any _) rfl, ?_⟩
  rw [Configuration.rules_passToAny, Configuration.endpointsOf_any]
  rfl

/-- The name with its space stays on the line of its rule. -/
theorem lines_webZone : ∃ c script,
    Configuration.ofText .predefined none webZoneText = .ok c ∧
    c.compile c.policies = .ok script ∧ script.rules.length = 1 ∧
    splitLines script.text = script.lines ∧ ∀ line ∈ script.lines, IsContained line := by
  obtain ⟨c, hread, hpolicies⟩ := policies_webZone
  obtain ⟨script, hscript, hrules⟩ := compile_anyToAny c "Web Zone"
  rw [← hpolicies] at hscript
  exact ⟨c, script, hread, hscript, by rw [hrules]; rfl,
    lines_of_compile hread (List.Subset.refl _) hscript⟩

end ZoneFirewall
