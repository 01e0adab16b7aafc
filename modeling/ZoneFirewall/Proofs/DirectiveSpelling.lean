import ZoneFirewall.Proofs.ScannedTexts

/-!
# How directives are written

Which texts spell a directive, said field by field and without the readers; and that each form but
the creation of a policy reads a line exactly if the line is one of those texts.

* `IsProtocol`, `IsHost`, `IsDottedQuad`, `IsComment`, `IsTimeout`: what may stand in a field.
* `Directive.Spells`, `BlockLine.Spells`: the texts of a directive and of a line in a policy block.
* `takes_of_mem_families`: **what a form takes spells the directive that it yields.**
* `exists_run_of_spells`: **a text that spells a directive is read as that directive.**
-/

namespace ZoneFirewall

open Text Text.Scan

/-! ## Fields -/

/-- A protocol that may have ports. -/
def IsProtocol (s : String) : Prop := s = "tcp" ∨ s = "udp" ∨ IsNumeral s

/-- A text without quotes that names a host or is its address. -/
def IsHost (s : String) : Prop := s ≠ "" ∧ ∀ c ∈ s.toList, c ≠ ' ' ∧ c ≠ '"'

/-- Four numerals with dots between them. -/
def IsDottedQuad (s : String) : Prop :=
  ∃ a b c d, IsNumeral a ∧ IsNumeral b ∧ IsNumeral c ∧ IsNumeral d ∧
    s = a ++ "." ++ b ++ "." ++ c ++ "." ++ d

/-- A comment with the word in front of it. -/
def IsComment (s : String) : Prop := ∃ t, (∀ c ∈ t.toList, c ≠ '\n') ∧ s = " comment " ++ t

/-- What a service may be set to. -/
def IsSetting (s : String) : Prop := s = "session-cache" ∨ ∃ n, IsNumeral n ∧ s = "timeout " ++ n

/-- A timeout of which nothing is kept, or nothing. -/
def IsTimeout (s : String) : Prop := s = "" ∨ ∃ n, IsNumeral n ∧ s = " timeout " ++ n

/-- At least one space. -/
def IsSpaces (s : String) : Prop := s ≠ "" ∧ ∀ c ∈ s.toList, c = ' '

/-! ## Texts -/

/-- The text of port ranges. -/
def PortClause.text (r : PortClause) : String :=
  " src-port " ++ r.sourceFirst ++ "-" ++ r.sourceLast ++ " dst-port " ++ r.destinationFirst ++ "-"
    ++ r.destinationLast

/-- The texts of a service clause. -/
def ServiceClause.Spells (clause : ServiceClause) (text : String) : Prop :=
  (∀ n ∈ clause.numerals, IsNumeral n) ∧
    match clause with
    | .ports protocol ranges =>
      IsProtocol protocol ∧ ∃ timeout, IsTimeout timeout ∧
        text = protocol ++ optionally PortClause.text ranges ++ timeout
    | .icmp type code =>
      ∃ timeout, IsTimeout timeout ∧ text = "icmp type " ++ type ++ " code " ++ code ++ timeout

/-- The fields of the creation of a policy are what may stand there. -/
structure PolicyHeader.IsWritten (h : PolicyHeader) : Prop where
  /-- The number is a numeral. -/
  id : IsNumeral h.id
  /-- The name can be quoted. -/
  name : ∀ n ∈ h.name, IsName n
  /-- So can the zone that traffic comes from, -/
  fromZone : IsName h.fromZone
  /-- the zone that it goes to, -/
  toZone : IsName h.toZone
  /-- the source, -/
  source : IsName h.source
  /-- the destination, -/
  destination : IsName h.destination
  /-- and the service. -/
  service : IsName h.service
  /-- The address to put in has no spaces. -/
  natAddress : ∀ a ∈ h.natAddress, a ≠ "" ∧ ∀ c ∈ a.toList, c ≠ ' '
  /-- The port to put in is a numeral. -/
  natPort : ∀ n ∈ h.natPort, IsNumeral n

/-- The creation of a policy up to the words for the address replacement. -/
def PolicyHeader.lead (h : PolicyHeader) (spaces : String) : String :=
  "set policy id " ++ h.id ++ " " ++ optionally (fun n => "name " ++ inQuotes n ++ " ") h.name
    ++ "from " ++ inQuotes h.fromZone ++ " to " ++ inQuotes h.toZone ++ spaces
    ++ inQuotes h.source ++ " " ++ inQuotes h.destination ++ " " ++ inQuotes h.service ++ " "
    ++ h.nat.words

/-- What the creation of a policy begins with, up to and with its action. -/
def PolicyHeader.Opens (h : PolicyHeader) (front : String) : Prop :=
  h.IsWritten ∧ ∃ spaces gap, IsSpaces spaces ∧ IsGap gap ∧
    front = h.lead spaces ++ optionally (" ip " ++ ·) h.natAddress
      ++ optionally (" port " ++ ·) h.natPort ++ gap ++ h.action.word

/-- The bandwidth that a policy creation asks for, or nothing: at least one setting of a word and a
number. -/
def IsTraffic (s : String) : Prop :=
  s = "" ∨ ∃ settings : List String, settings ≠ [] ∧
    (∀ t ∈ settings, ∃ word n, word ≠ "" ∧ (∀ c ∈ word.toList, 'a' ≤ c ∧ c ≤ 'z') ∧ IsNumeral n ∧
      t = " " ++ word ++ " " ++ n) ∧
    s = " traffic" ++ String.join settings

/-- The schedule that a policy creation names, or nothing. -/
def IsSchedule (s : String) : Prop :=
  s = "" ∨ ∃ name, IsName name ∧ s = " schedule " ++ inQuotes name

/-- The word that asks for a log. -/
def logWord (log : Bool) : String := if log then "log" else ""

/-- The texts of the creation of a policy. -/
def PolicyHeader.Spells (h : PolicyHeader) (line : String) : Prop :=
  ∃ front gap traffic schedule, h.Opens front ∧ IsGap gap ∧ IsTraffic traffic ∧
    IsSchedule schedule ∧ line = front ++ gap ++ logWord h.log ++ traffic ++ schedule

/-- The texts of a directive. -/
def Directive.Spells (d : Directive) (line : String) : Prop :=
  match d with
  | .serviceContinue name clause =>
    IsName name ∧ ∃ text, clause.Spells text ∧
      line = "set service " ++ inQuotes name ++ " + " ++ text
  | .service name clause =>
    IsName name ∧ ∃ text, clause.Spells text ∧
      line = "set service " ++ inQuotes name ++ " protocol " ++ text
  | .serviceTimeout name setting =>
    IsName name ∧ IsSetting setting ∧ line = "set service " ++ inQuotes name ++ " " ++ setting
  | .address zone name host mask description =>
    IsName zone ∧ IsName name ∧ IsHost host ∧ (∀ m ∈ mask, IsDottedQuad m) ∧
      (∀ t ∈ description, ∀ c ∈ t.toList, c ≠ '"') ∧
      line = "set address " ++ inQuotes zone ++ " " ++ inQuotes name ++ " " ++ host
        ++ optionally (" " ++ ·) mask ++ optionally (" " ++ inQuotes ·) description
  | .addressGroupAdd zone group member =>
    IsName zone ∧ IsName group ∧ IsName member ∧
      line = "set group address " ++ inQuotes zone ++ " " ++ inQuotes group ++ " add "
        ++ inQuotes member
  | .addressGroupCreate zone group comment =>
    IsName zone ∧ IsName group ∧ (∀ t ∈ comment, IsComment t) ∧
      line = "set group address " ++ inQuotes zone ++ " " ++ inQuotes group
        ++ optionally id comment
  | .serviceGroupAdd group member =>
    IsName group ∧ IsName member ∧
      line = "set group service " ++ inQuotes group ++ " add " ++ inQuotes member
  | .serviceGroupCreate group comment =>
    IsName group ∧ (∀ t ∈ comment, IsComment t) ∧
      line = "set group service " ++ inQuotes group ++ optionally id comment
  | .policyCreate h => h.Spells line
  | .policyBlock id => IsNumeral id ∧ line = "set policy id " ++ id
  | .policyFlag id flag value =>
    IsNumeral id ∧ (∀ v ∈ value, IsName v) ∧ ∃ gap, IsGap gap ∧
      line = "set policy id " ++ id ++ " " ++ flag.word ++ gap ++ optionally inQuotes value

/-- The texts of a line within a policy block. -/
def BlockLine.Spells (b : BlockLine) (line : String) : Prop :=
  match b with
  | .member kind name => IsName name ∧ line = "set " ++ kind.word ++ " " ++ inQuotes name
  | .log option => (∀ c ∈ option.toList, c ≠ '\n') ∧ line = "set log " ++ option

/-! ## Services -/

section forms

variable {rest : List Char}

/-- A numeral begins with a digit. -/
theorem isDigit_head {n : String} (hn : IsNumeral n) : ∃ c cs, n.toList = c :: cs ∧ isDigit c := by
  obtain ⟨c, cs, hcs⟩ :=
    List.exists_cons_of_ne_nil fun hnil => hn.1 (String.toList_eq_nil_iff.1 hnil)
  exact ⟨c, cs, hcs, hn.2 c (by simp [hcs])⟩

/-- A fixed text is not in front of a numeral if no digit is in front of the text. -/
theorem not_prefix_numeral {t n : String} {c : Char} {cs : List Char} (hn : IsNumeral n)
    (ht : t.toList = c :: cs) (hc : isDigit c = false) : ¬ t.toList <+: n.toList ++ rest := by
  obtain ⟨d, ds, hds, hd⟩ := isDigit_head hn
  rw [ht, hds]
  intro h
  obtain ⟨rfl, -⟩ := List.cons_prefix_cons.1 h
  rw [hd] at hc
  cases hc

/-- A protocol is taken as it is. -/
theorem takes_scanProtocol : Takes scanProtocol fun p u => IsProtocol p ∧ u = p := by
  refine .orElse ?_ (.orElse ?_ ?_)
  · refine (takes_word "tcp" "tcp").mono fun p u h => ?_
    obtain ⟨rfl, rfl⟩ := h
    exact ⟨.inl rfl, rfl⟩
  · refine (takes_word "udp" "udp").mono fun p u h => ?_
    obtain ⟨rfl, rfl⟩ := h
    exact ⟨.inr (.inl rfl), rfl⟩
  · exact takes_digits.mono fun p u h => ⟨.inr (.inr h.1), h.2⟩

/-- A protocol is read if no digit follows it. -/
theorem run_scanProtocol {p : String} (hp : IsProtocol p) (hrest : Stops isDigit rest) :
    scanProtocol.run (p.toList ++ rest) = some (p, rest) := by
  have htcp : Begins (word "tcp" "tcp") "tcp" := (begins_expect "tcp").bind
  have hudp : Begins (word "udp" "udp") "udp" := (begins_expect "udp").bind
  rcases hp with rfl | rfl | hn
  · exact run_orElse_of_some (run_word _ _ rest)
  · rw [scanProtocol, run_orElse_of_none
      (htcp.run_eq_none (not_prefix_append (by decide) (by decide) rest))]
    exact run_orElse_of_some (run_word _ _ rest)
  · rw [scanProtocol,
      run_orElse_of_none (htcp.run_eq_none (not_prefix_numeral hn rfl (by decide))),
      run_orElse_of_none (hudp.run_eq_none (not_prefix_numeral hn rfl (by decide)))]
    exact run_digits hn hrest

/-- A range is taken as its two numerals with a hyphen between them. -/
theorem takes_scanRange : Takes scanRange fun r u =>
    (IsNumeral r.1 ∧ IsNumeral r.2) ∧ u = r.1 ++ "-" ++ r.2 :=
  takes_digits.field fun _ hfirst => .afterText <| takes_digits.field fun _ hlast =>
    .pure ⟨⟨hfirst, hlast⟩, by simp [String.append_assoc]⟩

/-- A range is read if no digit follows it. -/
theorem run_scanRange {first last : String} (hfirst : IsNumeral first) (hlast : IsNumeral last)
    (hrest : Stops isDigit rest) :
    scanRange.run (first.toList ++ ("-".toList ++ (last.toList ++ rest)))
      = some ((first, last), rest) := by
  rw [scanRange, run_bind (run_digits hfirst (by simp; decide)), run_bind (run_expect _ _),
    run_bind (run_digits hlast hrest)]
  rfl

/-- The ports of a clause are taken as their text. -/
theorem takes_scanPorts : Takes scanPorts fun r u =>
    (∀ n ∈ (ServiceClause.ports "" (some r)).numerals, IsNumeral n) ∧ u = r.text := by
  refine .afterText <| takes_scanRange.field fun source hsource => .afterText <|
    takes_scanRange.field fun destination hdestination => .pure ⟨?_, ?_⟩
  · simp [ServiceClause.numerals, hsource, hdestination]
  · simp [PortClause.text, String.append_assoc]

/-- They are read if no digit follows them. -/
theorem run_scanPorts {protocol : String} {r : PortClause}
    (hr : ∀ n ∈ (ServiceClause.ports protocol (some r)).numerals, IsNumeral n)
    (hrest : Stops isDigit rest) : scanPorts.run (r.text.toList ++ rest) = some (r, rest) := by
  simp only [ServiceClause.numerals, List.forall_mem_cons] at hr
  obtain ⟨hsourceFirst, hsourceLast, hdestinationFirst, hdestinationLast, -⟩ := hr
  simp only [PortClause.text, String.toList_append, List.append_assoc]
  rw [scanPorts, run_bind (run_expect _ _),
    run_bind (run_scanRange hsourceFirst hsourceLast (by simp; decide)),
    run_bind (run_expect _ _), run_bind (run_scanRange hdestinationFirst hdestinationLast hrest)]
  rfl

/-- A timeout is taken as one of its texts; what it says is not kept. -/
theorem takes_scanTimeout : Takes scanTimeout fun _ u => IsTimeout u := by
  have hsome :
      Takes (do expect " timeout "; digits) fun n u => IsNumeral n ∧ u = " timeout " ++ n :=
    .afterText <| takes_digits.mono fun _ _ hu => ⟨hu.1, congrArg _ hu.2⟩
  refine hsome.maybe.mono fun o u hu => ?_
  rcases hu with ⟨n, rfl, hn, rfl⟩ | ⟨rfl, rfl⟩
  · exact .inr ⟨n, hn, rfl⟩
  · exact .inl rfl

/-- Every text of a timeout is read to its end. -/
theorem run_scanTimeout {timeout : String} (h : IsTimeout timeout) :
    ∃ o, scanTimeout.run timeout.toList = some (o, []) := by
  rcases h with rfl | ⟨n, hn, rfl⟩
  · exact ⟨none, rfl⟩
  · refine ⟨some n, run_maybe_of_some ?_⟩
    rw [String.toList_append, run_bind (run_expect _ _), ← List.append_nil n.toList]
    exact run_digits hn (stops_nil _)

/-- A timeout is no digit and no port. -/
theorem IsTimeout.apart {timeout : String} (h : IsTimeout timeout) :
    Stops isDigit timeout.toList ∧ ¬ " src-port ".toList <+: timeout.toList := by
  rcases h with rfl | ⟨n, -, rfl⟩
  · exact ⟨stops_nil _, by decide⟩
  · rw [String.toList_append]
    exact ⟨by simp; decide, not_prefix_append (by decide) (by decide) _⟩

/-- What a service line begins with is taken as the name and the link. -/
theorem takes_scanServiceName (link : String) : Takes (scanServiceName link) fun name u =>
    IsName name ∧ u = "set service " ++ inQuotes name ++ link :=
  .afterText <| takes_quoted.field fun _ hname => .afterText <|
    .pure ⟨hname, by simp [String.append_assoc]⟩

/-- It is read whatever follows it. -/
theorem run_scanServiceName {name link : String} (hname : IsName name) :
    (scanServiceName link).run
      ("set service ".toList ++ ((inQuotes name).toList ++ (link.toList ++ rest)))
      = some (name, rest) := by
  rw [scanServiceName, run_bind (run_expect _ _), run_bind (run_quoted hname _),
    run_bind (run_expect _ _)]
  rfl

/-- A clause with ports is taken as one of its texts. -/
theorem takes_scanPortClause : Takes scanPortClause ServiceClause.Spells := by
  refine takes_scanProtocol.field fun protocol hprotocol => takes_scanPorts.optional.field
    fun ranges hranges => takes_scanTimeout.bind fun _ timeout htimeout =>
    takes_ending.bind fun _ _ hend => .pure ⟨?_, hprotocol, timeout, htimeout, ?_⟩
  · rcases ranges with _ | r
    · simp [ServiceClause.numerals]
    · exact hranges r rfl
  · simp [hend, String.append_assoc]

/-- Every text of such a clause is read as the clause. -/
theorem run_scanPortClause {protocol text : String} {ranges : Option PortClause}
    (h : (ServiceClause.ports protocol ranges).Spells text) :
    scanPortClause.run text.toList = some (.ports protocol ranges, []) := by
  obtain ⟨hnumerals, hprotocol, timeout, htimeout, rfl⟩ := h
  obtain ⟨o, ho⟩ := run_scanTimeout htimeout
  obtain ⟨hdigit, hport⟩ := htimeout.apart
  have hbegins : Begins scanPorts " src-port " := (begins_expect _).bind
  simp only [String.toList_append, List.append_assoc]
  rcases ranges with _ | r
  · rw [optionally_none, String.toList_empty, List.nil_append, scanPortClause,
      run_bind (run_scanProtocol hprotocol hdigit),
      run_bind (run_maybe_of_none (hbegins.run_eq_none hport)), run_bind ho]
    rfl
  · have hspace : Stops isDigit (r.text.toList ++ timeout.toList) := by
      simp [PortClause.text]
      decide
    rw [optionally_some, scanPortClause, run_bind (run_scanProtocol hprotocol hspace),
      run_bind (run_maybe_of_some (run_scanPorts hnumerals hdigit)), run_bind ho]
    rfl

/-- A clause with a type and a code is taken as one of its texts. -/
theorem takes_scanIcmpClause : Takes scanIcmpClause ServiceClause.Spells := by
  refine .afterText <| takes_digits.field fun type htype => .afterText <|
    takes_digits.field fun code hcode => takes_scanTimeout.bind fun _ timeout htimeout =>
    takes_ending.bind fun _ _ hend => .pure ⟨?_, timeout, htimeout, ?_⟩
  · simp [ServiceClause.numerals, htype, hcode]
  · simp [hend, String.append_assoc]

/-- Every text of such a clause is read as the clause. -/
theorem run_scanIcmpClause {type code text : String}
    (h : (ServiceClause.icmp type code).Spells text) :
    scanIcmpClause.run text.toList = some (.icmp type code, []) := by
  obtain ⟨hnumerals, timeout, htimeout, rfl⟩ := h
  simp only [ServiceClause.numerals, List.forall_mem_cons] at hnumerals
  obtain ⟨htype, hcode, -⟩ := hnumerals
  obtain ⟨o, ho⟩ := run_scanTimeout htimeout
  simp only [String.toList_append, List.append_assoc]
  rw [scanIcmpClause, run_bind (run_expect _ _), run_bind (run_digits htype (by simp; decide)),
    run_bind (run_expect _ _), run_bind (run_digits hcode htimeout.apart.1), run_bind ho]
  rfl

/-- A line for the timeout of a service is taken as one of its texts. -/
theorem takes_scanServiceTimeout : Takes scanServiceTimeout Directive.Spells := by
  have htimeout : Takes (do expect "timeout "; return "timeout " ++ (← digits)) fun setting u =>
      IsSetting setting ∧ u = id setting :=
    .afterText <| takes_digits.field fun n hn => .pure ⟨.inr ⟨n, hn, rfl⟩, by simp⟩
  have hcache : Takes (word "session-cache" "session-cache") fun setting u =>
      IsSetting setting ∧ u = id setting := by
    refine (takes_word _ _).mono fun setting u h => ?_
    obtain ⟨rfl, rfl⟩ := h
    exact ⟨.inl rfl, rfl⟩
  refine (takes_scanServiceName " ").field fun name hname => (htimeout.orElse hcache).field
    fun setting hsetting => takes_ending.bind fun _ _ hend => .pure ⟨hname, hsetting, ?_⟩
  simp [hend, String.append_assoc]

/-- Every text of such a line is read as the line. -/
theorem run_scanServiceTimeout {name setting line : String}
    (h : (Directive.serviceTimeout name setting).Spells line) :
    scanServiceTimeout.run line.toList = some (.serviceTimeout name setting, []) := by
  obtain ⟨hname, hsetting, rfl⟩ := h
  simp only [String.toList_append, List.append_assoc]
  rw [scanServiceTimeout, run_bind (run_scanServiceName hname)]
  rcases hsetting with rfl | ⟨n, hn, rfl⟩
  · rfl
  · have htimeout : (do expect "timeout "; return "timeout " ++ (← digits) : Scan String).run
        ("timeout " ++ n).toList = some ("timeout " ++ n, []) := by
      rw [String.toList_append, run_bind (run_expect _ _), ← List.append_nil n.toList,
        run_bind (run_digits hn (stops_nil _))]
      rfl
    rw [run_bind (run_orElse_of_some htimeout)]
    rfl

/-! ## Addresses and groups -/

/-- Four numerals with dots between them are taken as they are. -/
theorem takes_scanDottedQuad : Takes scanDottedQuad fun s u => IsDottedQuad s ∧ u = s := by
  refine takes_digits.field fun a ha => .afterText <| takes_digits.field fun b hb => .afterText <|
    takes_digits.field fun c hc => .afterText <| takes_digits.field fun d hd =>
    .pure ⟨⟨a, b, c, d, ha, hb, hc, hd, rfl⟩, ?_⟩
  simp [String.append_assoc]

/-- They are read if no digit follows them. -/
theorem run_scanDottedQuad {s : String} (h : IsDottedQuad s) (hrest : Stops isDigit rest) :
    scanDottedQuad.run (s.toList ++ rest) = some (s, rest) := by
  obtain ⟨a, b, c, d, ha, hb, hc, hd, rfl⟩ := h
  simp only [String.toList_append, List.append_assoc]
  rw [scanDottedQuad, run_bind (run_digits ha (by simp; decide)), run_bind (run_expect _ _),
    run_bind (run_digits hb (by simp; decide)), run_bind (run_expect _ _),
    run_bind (run_digits hc (by simp; decide)), run_bind (run_expect _ _),
    run_bind (run_digits hd hrest)]
  rfl

/-- A mask after the space in front of it. -/
def scanMask : Scan String := do
  expect " "
  scanDottedQuad

/-- A description after the space in front of it. -/
def scanDescription : Scan String := do
  expect " \""
  let text ← span (· ≠ '"')
  expect "\""
  return text

/-- A mask is taken with the space in front of it. -/
theorem takes_scanMask : Takes scanMask fun m u => IsDottedQuad m ∧ u = " " ++ m :=
  .afterText <| takes_scanDottedQuad.mono fun _ _ hu => ⟨hu.1, congrArg _ hu.2⟩

/-- A description is taken with the quotes around it and the space in front of it. -/
theorem takes_scanDescription : Takes scanDescription fun t u =>
    (∀ c ∈ t.toList, c ≠ '"') ∧ u = " " ++ inQuotes t := by
  refine .afterText <| (takes_span _).field fun t ht => .afterText <| .pure ⟨by simpa using ht, ?_⟩
  rw [inQuotes, ← String.toList_inj]
  simp

/-- A description without quotes in it is read whatever follows it. -/
theorem run_scanDescription {t : String} (ht : ∀ c ∈ t.toList, c ≠ '"') :
    scanDescription.run ((" " ++ inQuotes t).toList ++ rest) = some (t, rest) := by
  have hopen : (" " ++ inQuotes t).toList ++ rest
      = " \"".toList ++ (t.toList ++ ("\"".toList ++ rest)) := by
    simp [inQuotes]
  have hspan : (span (· ≠ '"')).run (t.toList ++ ("\"".toList ++ rest))
      = some (t, "\"".toList ++ rest) :=
    run_span (by simpa using ht) (by simp)
  rw [hopen, scanDescription, run_bind (run_expect _ _), run_bind hspan, run_bind (run_expect _ _)]
  rfl

/-- The reader of an address line, its optional parts named. -/
theorem scanAddress_eq : scanAddress = do
    expect "set address "
    let zone ← quoted
    expect " "
    let name ← quoted
    expect " "
    let host ← spanSome fun c => c ≠ ' ' && c ≠ '"'
    let mask ← maybe scanMask
    let description ← maybe scanDescription
    ending
    return .address zone name host mask description := rfl

/-- An address line is taken as one of its texts. -/
theorem takes_scanAddress : Takes scanAddress Directive.Spells := by
  refine .afterText <| takes_quoted.field fun zone hzone => .afterText <|
    takes_quoted.field fun name hname => .afterText <| (takes_spanSome _).field fun host hhost =>
    takes_scanMask.optional.field fun mask hmask => takes_scanDescription.optional.field
    fun description hdescription => takes_ending.bind fun _ _ hend => .pure ?_
  refine ⟨hzone, hname, ⟨hhost.1, by simpa using hhost.2⟩, hmask, hdescription, ?_⟩
  simp [hend, String.append_assoc]

/-- A description is no mask. -/
theorem run_scanMask_description (description : Option String) :
    scanMask.run (optionally (" " ++ inQuotes ·) description).toList = none := by
  rcases description with _ | t
  · rfl
  · have hquote : digits.run (inQuotes t).toList = none :=
      run_spanSome_of_stops (by simp [inQuotes]; decide)
    rw [optionally_some, String.toList_append, scanMask, run_bind (run_expect _ _)]
    exact run_bind_of_none hquote

/-- Every text of an address line is read as the line. -/
theorem run_scanAddress {zone name host line : String} {mask description : Option String}
    (h : (Directive.address zone name host mask description).Spells line) :
    scanAddress.run line.toList = some (.address zone name host mask description, []) := by
  obtain ⟨hzone, hname, ⟨hne, hhost⟩, hmask, hdescription, rfl⟩ := h
  have hdescribed : (maybe scanDescription).run
      (optionally (" " ++ inQuotes ·) description).toList = some (description, []) := by
    rcases description with _ | t
    · rfl
    · rw [optionally_some, ← List.append_nil (String.toList _)]
      exact run_maybe_of_some (run_scanDescription (hdescription t rfl))
  have hmasked : (maybe scanMask).run ((optionally (" " ++ ·) mask).toList
      ++ (optionally (" " ++ inQuotes ·) description).toList)
      = some (mask, (optionally (" " ++ inQuotes ·) description).toList) := by
    rcases mask with _ | m
    · exact run_maybe_of_none (run_scanMask_description description)
    · refine run_maybe_of_some ?_
      rw [optionally_some, String.toList_append, List.append_assoc, scanMask,
        run_bind (run_expect _ _)]
      refine run_scanDottedQuad (hmask m rfl) ?_
      rcases description with _ | t
      · exact stops_nil _
      · simp
        decide
  have hstop : Stops (fun c => c ≠ ' ' && c ≠ '"') ((optionally (" " ++ ·) mask).toList
      ++ (optionally (" " ++ inQuotes ·) description).toList) := by
    rcases mask with _ | m <;> rcases description with _ | t <;> simp
  simp only [String.toList_append, List.append_assoc]
  rw [scanAddress_eq, run_bind (run_expect _ _), run_bind (run_quoted hzone _),
    run_bind (run_expect _ _), run_bind (run_quoted hname _), run_bind (run_expect _ _),
    run_bind (run_spanSome hne (by simpa using hhost) hstop), run_bind hmasked, run_bind hdescribed]
  rfl

/-- A comment is taken as it is. -/
theorem takes_scanComment : Takes scanComment fun t u => IsComment t ∧ u = id t :=
  .afterText <| (takes_span _).field fun t ht => .pure ⟨⟨t, by simpa using ht, rfl⟩, by simp⟩

/-- A comment is read to the end of the line. -/
theorem run_scanComment {t : String} (ht : IsComment t) :
    scanComment.run t.toList = some (t, []) := by
  obtain ⟨t, ht, rfl⟩ := ht
  rw [String.toList_append, scanComment, run_bind (run_expect _ _), ← List.append_nil t.toList,
    run_bind (run_span (by simpa using ht) (stops_nil _))]
  rfl

/-- So is the place of a comment that may be left out. -/
theorem run_maybe_scanComment {comment : Option String} (h : ∀ t ∈ comment, IsComment t) :
    (maybe scanComment).run (optionally id comment).toList = some (comment, []) := by
  rcases comment with _ | t
  · rfl
  · exact run_maybe_of_some (run_scanComment (h t rfl))

/-- A line that adds to a group of addresses is taken as one of its texts. -/
theorem takes_scanAddressGroupAdd : Takes scanAddressGroupAdd Directive.Spells := by
  refine .afterText <| takes_quoted.field fun zone hzone => .afterText <|
    takes_quoted.field fun group hgroup => .afterText <| takes_quoted.field fun member hmember =>
    takes_ending.bind fun _ _ hend => .pure ⟨hzone, hgroup, hmember, ?_⟩
  simp [hend, String.append_assoc]

/-- Every text of such a line is read as the line. -/
theorem run_scanAddressGroupAdd {zone group member line : String}
    (h : (Directive.addressGroupAdd zone group member).Spells line) :
    scanAddressGroupAdd.run line.toList = some (.addressGroupAdd zone group member, []) := by
  obtain ⟨hzone, hgroup, hmember, rfl⟩ := h
  simp only [String.toList_append, List.append_assoc]
  rw [scanAddressGroupAdd, run_bind (run_expect _ _), run_bind (run_quoted hzone _),
    run_bind (run_expect _ _), run_bind (run_quoted hgroup _), run_bind (run_expect _ _),
    ← List.append_nil (inQuotes member).toList, run_bind (run_quoted hmember _)]
  rfl

/-- A line that names a group of addresses is taken as one of its texts. -/
theorem takes_scanAddressGroupCreate : Takes scanAddressGroupCreate Directive.Spells := by
  refine .afterText <| takes_quoted.field fun zone hzone => .afterText <|
    takes_quoted.field fun group hgroup => takes_scanComment.optional.field fun comment hcomment =>
    takes_ending.bind fun _ _ hend => .pure ⟨hzone, hgroup, hcomment, ?_⟩
  simp [hend, String.append_assoc]

/-- Every text of such a line is read as the line. -/
theorem run_scanAddressGroupCreate {zone group line : String} {comment : Option String}
    (h : (Directive.addressGroupCreate zone group comment).Spells line) :
    scanAddressGroupCreate.run line.toList = some (.addressGroupCreate zone group comment, []) := by
  obtain ⟨hzone, hgroup, hcomment, rfl⟩ := h
  simp only [String.toList_append, List.append_assoc]
  rw [scanAddressGroupCreate, run_bind (run_expect _ _), run_bind (run_quoted hzone _),
    run_bind (run_expect _ _), run_bind (run_quoted hgroup _),
    run_bind (run_maybe_scanComment hcomment)]
  rfl

/-- A line that adds to a group of services is taken as one of its texts. -/
theorem takes_scanServiceGroupAdd : Takes scanServiceGroupAdd Directive.Spells := by
  refine .afterText <| takes_quoted.field fun group hgroup => .afterText <|
    takes_quoted.field fun member hmember => takes_ending.bind fun _ _ hend =>
    .pure ⟨hgroup, hmember, ?_⟩
  simp [hend, String.append_assoc]

/-- Every text of such a line is read as the line. -/
theorem run_scanServiceGroupAdd {group member line : String}
    (h : (Directive.serviceGroupAdd group member).Spells line) :
    scanServiceGroupAdd.run line.toList = some (.serviceGroupAdd group member, []) := by
  obtain ⟨hgroup, hmember, rfl⟩ := h
  simp only [String.toList_append, List.append_assoc]
  rw [scanServiceGroupAdd, run_bind (run_expect _ _), run_bind (run_quoted hgroup _),
    run_bind (run_expect _ _), ← List.append_nil (inQuotes member).toList,
    run_bind (run_quoted hmember _)]
  rfl

/-- A line that names a group of services is taken as one of its texts. -/
theorem takes_scanServiceGroupCreate : Takes scanServiceGroupCreate Directive.Spells := by
  refine .afterText <| takes_quoted.field fun group hgroup => takes_scanComment.optional.field
    fun comment hcomment => takes_ending.bind fun _ _ hend => .pure ⟨hgroup, hcomment, ?_⟩
  simp [hend, String.append_assoc]

/-- Every text of such a line is read as the line. -/
theorem run_scanServiceGroupCreate {group line : String} {comment : Option String}
    (h : (Directive.serviceGroupCreate group comment).Spells line) :
    scanServiceGroupCreate.run line.toList = some (.serviceGroupCreate group comment, []) := by
  obtain ⟨hgroup, hcomment, rfl⟩ := h
  simp only [String.toList_append, List.append_assoc]
  rw [scanServiceGroupCreate, run_bind (run_expect _ _), run_bind (run_quoted hgroup _),
    run_bind (run_maybe_scanComment hcomment)]
  rfl

/-! ## Policies -/

/-- What a policy line begins with is taken as its number. -/
theorem takes_scanPolicyId :
    Takes scanPolicyId fun n u => IsNumeral n ∧ u = "set policy id " ++ n :=
  .afterText <| takes_digits.mono fun _ _ hu => ⟨hu.1, congrArg _ hu.2⟩

/-- It is read if no digit follows the number. -/
theorem run_scanPolicyId {n : String} (hn : IsNumeral n) (hrest : Stops isDigit rest) :
    scanPolicyId.run ("set policy id ".toList ++ (n.toList ++ rest)) = some (n, rest) := by
  rw [scanPolicyId, run_bind (run_expect _ _), run_digits hn hrest]

/-- A line that opens a block is taken as its text. -/
theorem takes_scanPolicyBlock : Takes scanPolicyBlock Directive.Spells := by
  refine takes_scanPolicyId.field fun id hid => takes_ending.bind fun _ _ hend => .pure ⟨hid, ?_⟩
  simp [hend]

/-- The text of such a line is read as the line. -/
theorem run_scanPolicyBlock {id line : String} (h : (Directive.policyBlock id).Spells line) :
    scanPolicyBlock.run line.toList = some (.policyBlock id, []) := by
  obtain ⟨hid, rfl⟩ := h
  rw [String.toList_append, ← List.append_nil id.toList, scanPolicyBlock,
    run_bind (run_scanPolicyId hid (stops_nil _))]
  rfl

/-- The word of a flag line. -/
def scanFlagWord : Scan PolicyFlag := word "disable" .disable <|> word "application" .application

/-- The word of a flag is taken as it is. -/
theorem takes_scanFlagWord : Takes scanFlagWord fun flag u => True ∧ u = flag.word := by
  refine .orElse ((takes_word _ _).mono ?_) ((takes_word _ _).mono ?_)
  all_goals
    rintro flag u ⟨rfl, rfl⟩
    exact ⟨trivial, rfl⟩

/-- It is read whatever follows it. -/
theorem run_scanFlagWord (flag : PolicyFlag) :
    scanFlagWord.run (flag.word.toList ++ rest) = some (flag, rest) := by
  have hdisable : Begins (word "disable" PolicyFlag.disable) "disable" := (begins_expect _).bind
  cases flag with
  | disable => exact run_orElse_of_some (run_word _ _ rest)
  | application =>
      rw [scanFlagWord, run_orElse_of_none
        (hdisable.run_eq_none (not_prefix_append (by decide) (by decide) rest))]
      exact run_word _ _ rest

/-- The reader of a flag line, its optional parts named. -/
theorem scanPolicyFlag_eq : scanPolicyFlag = do
    let id ← scanPolicyId
    expect " "
    let flag ← scanFlagWord
    let _ ← maybe (expect " ")
    let value ← maybe quoted
    ending
    return .policyFlag id flag value := rfl

/-- A flag line is taken as one of its texts. -/
theorem takes_scanPolicyFlag : Takes scanPolicyFlag Directive.Spells := by
  refine takes_scanPolicyId.field fun id hid => .afterText <| takes_scanFlagWord.field fun flag _ =>
    takes_gap.bind fun _ gap hgap => takes_quoted.optional.field fun value hvalue =>
    takes_ending.bind fun _ _ hend => .pure ⟨hid, hvalue, gap, hgap, ?_⟩
  simp [hend, String.append_assoc]

/-- A gap is read if no space follows it. -/
theorem run_gap {gap : String} (hgap : IsGap gap) (rest : List Char)
    (hrest : Stops (· = ' ') rest) :
    ∃ o, (maybe (expect " ")).run (gap.toList ++ rest) = some (o, rest) := by
  rcases hgap with rfl | rfl
  · refine ⟨none, run_maybe_of_none ((begins_expect " ").run_eq_none ?_)⟩
    rcases rest with _ | ⟨c, rest⟩
    · decide
    · intro h
      have hc : ' ' = c := (List.cons_prefix_cons.1 h).1
      simp [← hc] at hrest
  · exact ⟨some (), run_maybe_of_some (run_expect " " rest)⟩

/-- Every text of a flag line is read as the line. -/
theorem run_scanPolicyFlag {id line : String} {flag : PolicyFlag} {value : Option String}
    (h : (Directive.policyFlag id flag value).Spells line) :
    scanPolicyFlag.run line.toList = some (.policyFlag id flag value, []) := by
  obtain ⟨hid, hvalue, gap, hgap, rfl⟩ := h
  have hvalued : (maybe quoted).run (optionally inQuotes value).toList = some (value, []) := by
    rcases value with _ | v
    · rfl
    · rw [optionally_some, ← List.append_nil (inQuotes v).toList]
      exact run_maybe_of_some (run_quoted (hvalue v rfl) [])
  obtain ⟨o, ho⟩ := run_gap hgap (optionally inQuotes value).toList (by
    rcases value with _ | v <;> simp [inQuotes])
  simp only [String.toList_append, List.append_assoc]
  rw [scanPolicyFlag_eq, run_bind (run_scanPolicyId hid (by simp; decide)),
    run_bind (run_expect _ _), run_bind (run_scanFlagWord flag), run_bind ho, run_bind hvalued]
  rfl

/-! ## Lines of a policy block -/

/-- The word of a member line. -/
def scanMemberKind : Scan MemberKind :=
  word "service" .service <|> word "dst-address" .destination <|> word "src-address" .source

/-- The word for the kind of a member is taken as it is. -/
theorem takes_scanMemberKind : Takes scanMemberKind fun kind u => True ∧ u = kind.word := by
  refine .orElse ((takes_word _ _).mono ?_) (.orElse ((takes_word _ _).mono ?_)
    ((takes_word _ _).mono ?_))
  all_goals
    rintro kind u ⟨rfl, rfl⟩
    exact ⟨trivial, rfl⟩

/-- It is read whatever follows it. -/
theorem run_scanMemberKind (kind : MemberKind) :
    scanMemberKind.run (kind.word.toList ++ rest) = some (kind, rest) := by
  have hservice : Begins (word "service" MemberKind.service) "service" := (begins_expect _).bind
  have hdestination : Begins (word "dst-address" MemberKind.destination) "dst-address" :=
    (begins_expect _).bind
  cases kind with
  | service => exact run_orElse_of_some (run_word _ _ rest)
  | destination =>
      rw [scanMemberKind, run_orElse_of_none
        (hservice.run_eq_none (not_prefix_append (by decide) (by decide) rest))]
      exact run_orElse_of_some (run_word _ _ rest)
  | source =>
      rw [scanMemberKind, run_orElse_of_none
        (hservice.run_eq_none (not_prefix_append (by decide) (by decide) rest)),
        run_orElse_of_none
          (hdestination.run_eq_none (not_prefix_append (by decide) (by decide) rest))]
      exact run_word _ _ rest

/-- The reader of a member line, the kind of the member named. -/
theorem scanBlockMember_eq : scanBlockMember = do
    expect "set "
    let kind ← scanMemberKind
    expect " "
    let name ← quoted
    ending
    return .member kind name := rfl

/-- A member line is taken as its text. -/
theorem takes_scanBlockMember : Takes scanBlockMember BlockLine.Spells := by
  refine .afterText <| takes_scanMemberKind.field fun kind _ => .afterText <|
    takes_quoted.field fun name hname => takes_ending.bind fun _ _ hend => .pure ⟨hname, ?_⟩
  simp [hend, String.append_assoc]

/-- The text of a member line is read as the line. -/
theorem run_scanBlockMember {kind : MemberKind} {name line : String}
    (h : (BlockLine.member kind name).Spells line) :
    scanBlockMember.run line.toList = some (.member kind name, []) := by
  obtain ⟨hname, rfl⟩ := h
  simp only [String.toList_append, List.append_assoc]
  rw [scanBlockMember_eq, run_bind (run_expect _ _), run_bind (run_scanMemberKind kind),
    run_bind (run_expect _ _), ← List.append_nil (inQuotes name).toList,
    run_bind (run_quoted hname _)]
  rfl

/-- A log line of a block is taken as its text. -/
theorem takes_scanBlockLog : Takes scanBlockLog BlockLine.Spells := by
  refine .afterText <| (takes_span _).field fun option hoption => takes_ending.bind
    fun _ _ hend => .pure ⟨by simpa using hoption, ?_⟩
  simp [hend]

/-- The text of a log line is read as the line. -/
theorem run_scanBlockLog {option line : String} (h : (BlockLine.log option).Spells line) :
    scanBlockLog.run line.toList = some (.log option, []) := by
  obtain ⟨hoption, rfl⟩ := h
  rw [String.toList_append, scanBlockLog, run_bind (run_expect _ _),
    ← List.append_nil option.toList, run_bind (run_span (by simpa using hoption) (stops_nil _))]
  rfl

/-! ## Forms -/

/-- The forms that define a service, told apart by the words after its name and by what follows. -/
theorem takes_serviceForm {link : String} {scan : Scan ServiceClause}
    {make : String → ServiceClause → Directive} (hend : Exhausts scan)
    (hscan : Takes scan ServiceClause.Spells)
    (hmake : ∀ name clause text, IsName name → clause.Spells text →
      (make name clause).Spells ("set service " ++ inQuotes name ++ link ++ text)) :
    Exhausts (do let name ← scanServiceName link; return make name (← scan)) ∧
      Takes (do let name ← scanServiceName link; return make name (← scan)) Directive.Spells := by
  refine ⟨.after fun _ => hend.map, (takes_scanServiceName link).field fun name hname =>
    hscan.bind fun clause text htext => .pure ?_⟩
  rw [String.append_empty]
  exact hmake name clause text hname htext

/-- A service line is read as its name and its clause if the clause is read to the end. -/
theorem run_serviceForm {link text : String} {scan : Scan ServiceClause} {name : String}
    {clause : ServiceClause} {make : String → ServiceClause → Directive} (hname : IsName name)
    (hscan : scan.run text.toList = some (clause, [])) :
    (do let name ← scanServiceName link; return make name (← scan) : Scan Directive).run
      ("set service " ++ inQuotes name ++ link ++ text).toList = some (make name clause, []) := by
  simp only [String.toList_append, List.append_assoc]
  rw [run_bind (run_scanServiceName hname), run_bind hscan]
  rfl

/-- **What a form takes spells the directive that it yields**, and nothing is left but one final
line feed; the creation of a policy apart. -/
theorem takes_of_mem_families {f : Family} (hf : f ∈ families) {form : Scan Directive}
    (hform : form ∈ f.forms) (hother : form ≠ scanPolicyCreate) :
    Exhausts form ∧ Takes form Directive.Spells := by
  have hports : Exhausts scanPortClause :=
    .after fun _ => .after fun _ => .after fun _ => exhausts_ending _
  have hicmp : Exhausts scanIcmpClause :=
    .after fun _ => .after fun _ => .after fun _ => .after fun _ => .after fun _ =>
      exhausts_ending _
  simp only [families, List.mem_cons, List.not_mem_nil, or_false] at hf
  rcases hf with rfl | rfl | rfl | rfl | rfl
  · simp only [List.mem_cons, List.not_mem_nil, or_false] at hform
    rcases hform with rfl | rfl | rfl | rfl | rfl
    · exact takes_serviceForm hports takes_scanPortClause fun _ _ text hname htext =>
        ⟨hname, text, htext, rfl⟩
    · exact takes_serviceForm hicmp takes_scanIcmpClause fun _ _ text hname htext =>
        ⟨hname, text, htext, rfl⟩
    · exact takes_serviceForm hports takes_scanPortClause fun _ _ text hname htext =>
        ⟨hname, text, htext, rfl⟩
    · exact takes_serviceForm hicmp takes_scanIcmpClause fun _ _ text hname htext =>
        ⟨hname, text, htext, rfl⟩
    · exact ⟨.after fun _ => .after fun _ => exhausts_ending _, takes_scanServiceTimeout⟩
  · rw [List.mem_singleton.1 hform]
    exact ⟨.after fun _ => .after fun _ => .after fun _ => .after fun _ => .after fun _ =>
      .after fun _ => .after fun _ => .after fun _ => exhausts_ending _, takes_scanAddress⟩
  · simp only [List.mem_cons, List.not_mem_nil, or_false] at hform
    rcases hform with rfl | rfl
    · exact ⟨.after fun _ => .after fun _ => .after fun _ => .after fun _ => .after fun _ =>
        .after fun _ => exhausts_ending _, takes_scanAddressGroupAdd⟩
    · exact ⟨.after fun _ => .after fun _ => .after fun _ => .after fun _ => .after fun _ =>
        exhausts_ending _, takes_scanAddressGroupCreate⟩
  · simp only [List.mem_cons, List.not_mem_nil, or_false] at hform
    rcases hform with rfl | rfl
    · exact ⟨.after fun _ => .after fun _ => .after fun _ => .after fun _ => exhausts_ending _,
        takes_scanServiceGroupAdd⟩
    · exact ⟨.after fun _ => .after fun _ => .after fun _ => exhausts_ending _,
        takes_scanServiceGroupCreate⟩
  · simp only [List.mem_cons, List.not_mem_nil, or_false] at hform
    rcases hform with rfl | rfl | rfl
    · exact absurd rfl hother
    · exact ⟨.after fun _ => exhausts_ending _, takes_scanPolicyBlock⟩
    · exact ⟨.after fun _ => .after fun _ => .after fun _ => .after fun _ => .after fun _ =>
        exhausts_ending _, takes_scanPolicyFlag⟩

/-- **A text that spells a directive is read as that directive**; the creation of a policy apart. -/
theorem exists_run_of_spells {d : Directive} {line : String} (hother : ∀ h, d ≠ .policyCreate h)
    (h : d.Spells line) :
    ∃ f ∈ families, ∃ form ∈ f.forms, form.run line.toList = some (d, []) := by
  have hservice : ⟨"set service", [scanServiceContinue, scanServiceIcmpContinue, scanService,
      scanServiceIcmp, scanServiceTimeout]⟩ ∈ families := by simp [families]
  have hgroup :
      ⟨"set group address", [scanAddressGroupAdd, scanAddressGroupCreate]⟩ ∈ families := by
    simp [families]
  have hserviceGroup : ⟨"set group service", [scanServiceGroupAdd, scanServiceGroupCreate]⟩
      ∈ families := by simp [families]
  have hpolicy : ⟨"set policy id", [scanPolicyCreate, scanPolicyBlock, scanPolicyFlag]⟩
      ∈ families := by simp [families]
  cases d with
  | serviceContinue name clause =>
      obtain ⟨hname, text, htext, rfl⟩ := h
      cases clause with
      | ports protocol ranges =>
          exact ⟨_, hservice, scanServiceContinue, by simp,
            run_serviceForm hname (run_scanPortClause htext)⟩
      | icmp type code =>
          exact ⟨_, hservice, scanServiceIcmpContinue, by simp,
            run_serviceForm hname (run_scanIcmpClause htext)⟩
  | service name clause =>
      obtain ⟨hname, text, htext, rfl⟩ := h
      cases clause with
      | ports protocol ranges =>
          exact ⟨_, hservice, scanService, by simp,
            run_serviceForm hname (run_scanPortClause htext)⟩
      | icmp type code =>
          exact ⟨_, hservice, scanServiceIcmp, by simp,
            run_serviceForm hname (run_scanIcmpClause htext)⟩
  | serviceTimeout name setting =>
      exact ⟨_, hservice, scanServiceTimeout, by simp, run_scanServiceTimeout h⟩
  | address zone name host mask description =>
      exact ⟨⟨"set address", [scanAddress]⟩, by simp [families], scanAddress, by simp,
        run_scanAddress h⟩
  | addressGroupAdd zone group member =>
      exact ⟨_, hgroup, scanAddressGroupAdd, by simp, run_scanAddressGroupAdd h⟩
  | addressGroupCreate zone group comment =>
      exact ⟨_, hgroup, scanAddressGroupCreate, by simp, run_scanAddressGroupCreate h⟩
  | serviceGroupAdd group member =>
      exact ⟨_, hserviceGroup, scanServiceGroupAdd, by simp, run_scanServiceGroupAdd h⟩
  | serviceGroupCreate group comment =>
      exact ⟨_, hserviceGroup, scanServiceGroupCreate, by simp, run_scanServiceGroupCreate h⟩
  | policyCreate header => exact absurd rfl (hother header)
  | policyBlock id => exact ⟨_, hpolicy, scanPolicyBlock, by simp, run_scanPolicyBlock h⟩
  | policyFlag id flag value => exact ⟨_, hpolicy, scanPolicyFlag, by simp, run_scanPolicyFlag h⟩

end forms

end ZoneFirewall
