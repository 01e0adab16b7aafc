import Mathlib.Data.Nat.Digits.Defs
import ZoneFirewall.Proofs.LineFaults
import ZoneFirewall.Proofs.PolicyCreation

/-!
# Writing a policy and reading it

A policy is created by one line. Written field by field, with its names in double quotes, it is read
back as the policy that was written: names may look like directives, an address may end in the word
of an action, and what stands behind the action does not matter.

* `Numeral`, `Numeral.ofNat`: digits that are not too many; the usual ones of a number.
* `Replacement`, `Creation`: what can be written in a line that creates a policy. `Creation.line`:
  the line. `Creation.policy`: the policy.
* `IsBehindAction`: what may stand behind the action. `isBehindAction_clauses`: clauses for the
  bandwidth and the schedule may.
* `dropBlanksEnd_append`: blanks are trimmed off behind a character that is none.
* `run_scanPolicyCreate_line`, `classify_line`: the line is taken as what was written, trimmed or
  not.
* `ofLines_line`: **a policy that is written is read back**, and nothing else comes with it.
-/

namespace ZoneFirewall

open Text Text.Scan

/-! ## Numbers as they are written -/

/-- Digits of a number, and not more than can be read. -/
structure Numeral where
  /-- The digits. -/
  text : String
  /-- They are digits, and there are some. -/
  isNumeral : IsNumeral text
  /-- They are not too many. -/
  fits : text.length ≤ digitLimit

/-- The number of the digits. -/
def Numeral.value (n : Numeral) : Nat := numeralValue n.text

/-- The digits are read as their number. -/
theorem Numeral.readNumber_text (n : Numeral) : readNumber n.text = .ok (n.value : Int) := by
  rw [readNumber_of_isNumeral n.isNumeral, if_pos n.fits]
  rfl

/-- The usual digits have the usual values. -/
theorem digitValue?_of_isDigit {c : Char} (h : c.isDigit) :
    digitValue? c = some (c.toNat - '0'.toNat) := by
  have hrange : 0x30 ≤ c.toNat ∧ c.toNat < 0x30 + 10 := by
    simp only [Char.isDigit, Bool.and_eq_true, decide_eq_true_eq, ge_iff_le,
      UInt32.le_iff_toNat_le] at h
    have hlow : 48 ≤ c.toNat := h.1
    have hhigh : c.toNat ≤ 57 := h.2
    omega
  unfold digitValue? digitZeros
  rw [List.find?_cons_of_pos (by simpa using hrange)]
  rfl

/-- A number is written in its digits to the base ten. -/
theorem toList_toString (n : Nat) : (toString n).toList = Nat.toDigits 10 n := by
  show n.repr.toList = _
  rw [Nat.repr_eq_ofList_toDigits, String.toList_ofList]

/-- There is nothing but digits in it. -/
theorem isDigit_of_mem_toString {n : Nat} {c : Char} (hc : c ∈ (toString n).toList) :
    c.isDigit := by
  rw [toList_toString] at hc
  exact Nat.isDigit_of_mem_toDigits (by decide) (by decide) hc

/-- So it is a numeral. -/
theorem isNumeral_toString (n : Nat) : IsNumeral (toString n) := by
  refine ⟨?_, ?_⟩
  · intro hempty
    have hnil : Nat.toDigits 10 n = [] := by
      rw [← toList_toString, hempty]
      rfl
    exact Nat.toDigits_ne_nil hnil
  · intro c hc
    rw [isDigit, digitValue?_of_isDigit (isDigit_of_mem_toString hc)]
    rfl

/-- The usual digits of a number have its value. -/
theorem numeralValue_toString (n : Nat) : numeralValue (toString n) = n := by
  have hvalues : ∀ cs : List Char, (∀ c ∈ cs, c.isDigit) →
      cs.filterMap digitValue? = cs.map fun c => c.toNat - '0'.toNat := by
    intro cs hcs
    induction cs with
    | nil => rfl
    | cons c cs ih =>
        obtain ⟨hc, hrest⟩ := List.forall_mem_cons.1 hcs
        rw [List.filterMap_cons_some (digitValue?_of_isDigit hc), ih hrest, List.map_cons]
  rw [numeralValue, hvalues _ fun c hc => isDigit_of_mem_toString hc, toList_toString, ofDigits,
    List.foldl_map]
  exact Nat.ofDigitChars_toDigits (by decide) (by decide)

/-- The usual digits of a number. -/
def Numeral.ofNat (n : Nat) (h : (toString n).length ≤ digitLimit) : Numeral :=
  ⟨toString n, isNumeral_toString n, h⟩

/-! ## What can be written -/

/-- What a line can say about an address replacement. -/
structure Replacement where
  /-- What is replaced. -/
  mode : NatMode
  /-- Something is. -/
  mode_ne_none : mode ≠ .none
  /-- The address to put in, without spaces. -/
  address : Option { a : String // a ≠ "" ∧ ∀ c ∈ a.toList, c ≠ ' ' }
  /-- The port to put in. -/
  port : Option Numeral

/-- How an address replacement is written. -/
def Replacement.text (r : Replacement) : String :=
  r.mode.words ++ optionally (fun a => " ip " ++ a.1) r.address
    ++ optionally (fun n => " port " ++ n.text) r.port ++ " "

/-- What a line that creates a policy can say. A name is anything without a double quote. -/
structure Creation where
  /-- The number of the policy. -/
  id : Numeral
  /-- It is positive. -/
  id_pos : 0 < id.value
  /-- Its name. -/
  name : Option { s : String // IsName s }
  /-- The zone that traffic comes from. -/
  fromZone : { s : String // IsName s }
  /-- The zone that traffic goes to. -/
  toZone : { s : String // IsName s }
  /-- The source. -/
  source : { s : String // IsName s }
  /-- The destination. -/
  destination : { s : String // IsName s }
  /-- The service. -/
  service : { s : String // IsName s }
  /-- The address replacement. -/
  replacement : Option Replacement
  /-- What happens to matching traffic. -/
  action : Action
  /-- Whether matching traffic is logged. -/
  log : Bool

namespace Creation

/-- How the word for the log is written. -/
def logText (log : Bool) : String := if log then " log" else ""

/-- How the creation of a policy is written, with some spaces in front of the source. -/
def line (x : Creation) (spaces : String) : String :=
  "set policy id " ++ x.id.text ++ " "
    ++ optionally (fun n => "name " ++ inQuotes n.1 ++ " ") x.name
    ++ "from " ++ inQuotes x.fromZone ++ " to " ++ inQuotes x.toZone ++ spaces
    ++ inQuotes x.source ++ " " ++ inQuotes x.destination ++ " " ++ inQuotes x.service ++ " "
    ++ optionally Replacement.text x.replacement ++ x.action.word ++ logText x.log

/-- The policy that is created. -/
def policy (x : Creation) : Policy where
  id := x.id.value
  fromZone := x.fromZone
  toZone := x.toZone
  name := (x.name.map (·.1)).getD ""
  disabled := false
  sources := [x.source.1]
  destinations := [x.destination.1]
  services := [x.service.1]
  application := ""
  nat := x.replacement.elim .none (·.mode)
  natAddress := (x.replacement.bind fun r => r.address.map (·.1)).getD ""
  natPort := x.replacement.bind fun r => r.port.map fun n => (n.value : Int)
  action := x.action
  log := x.log
  logInit := false

/-- The fields of the line. -/
def header (x : Creation) : PolicyHeader where
  id := x.id.text
  name := x.name.map (·.1)
  fromZone := x.fromZone
  toZone := x.toZone
  source := x.source
  destination := x.destination
  service := x.service
  nat := x.replacement.elim .none (·.mode)
  natAddress := x.replacement.bind fun r => r.address.map (·.1)
  natPort := x.replacement.bind fun r => r.port.map (·.text)
  action := x.action
  log := x.log

variable {x : Creation} {spaces : String}

/-- The fields are what a line can hold. -/
theorem isWritten_header (x : Creation) : x.header.IsWritten where
  id := x.id.isNumeral
  name := by
    intro n hn
    obtain ⟨m, -, rfl⟩ := Option.map_eq_some_iff.1 hn
    exact m.2
  fromZone := x.fromZone.2
  toZone := x.toZone.2
  source := x.source.2
  destination := x.destination.2
  service := x.service.2
  natAddress := by
    intro a ha
    obtain ⟨r, -, ha⟩ := Option.bind_eq_some_iff.1 ha
    obtain ⟨b, -, rfl⟩ := Option.map_eq_some_iff.1 ha
    exact b.2
  natPort := by
    intro n hn
    obtain ⟨r, -, hn⟩ := Option.bind_eq_some_iff.1 hn
    obtain ⟨m, -, rfl⟩ := Option.map_eq_some_iff.1 hn
    exact m.isNumeral

/-- The line, part by part. There is a space in front of the action if an address is replaced. -/
theorem toList_line (x : Creation) (spaces : String) (cs : List Char) :
    (x.line spaces).toList ++ cs = (x.header.lead spaces).toList
      ++ ((optionally (" ip " ++ ·) x.header.natAddress).toList
        ++ ((optionally (" port " ++ ·) x.header.natPort).toList
          ++ ((optionally (fun _ => " ") x.replacement).toList
            ++ (x.action.word.toList ++ ((logText x.log).toList ++ cs))))) := by
  have hname : optionally (fun n => "name " ++ inQuotes n.1 ++ " ") x.name
      = optionally (fun n => "name " ++ inQuotes n ++ " ") x.header.name := by
    unfold header
    cases x.name with
    | none => rfl
    | some n => rfl
  have hreplacement : optionally Replacement.text x.replacement = x.header.nat.words
      ++ optionally (" ip " ++ ·) x.header.natAddress
      ++ optionally (" port " ++ ·) x.header.natPort
      ++ optionally (fun _ => " ") x.replacement := by
    unfold header
    rcases x.replacement with _ | ⟨mode, hmode, _ | a, _ | n⟩
    all_goals rfl
  unfold line PolicyHeader.lead
  rw [hname, hreplacement]
  simp only [String.toList_append, List.append_assoc]
  rfl

end Creation

/-! ## Reading the line -/

/-- The beginnings of the clauses that a creation may have behind its action. -/
def clauseWords : List String := [" traffic", " schedule"]

/-- What may stand behind the action: nothing, or whatever begins like a clause for the bandwidth or
the schedule. -/
def IsBehindAction (s : String) : Prop := s = "" ∨ ∃ t ∈ clauseWords, t.toList <+: s.toList

/-- The clauses of a creation may stand there. -/
theorem isBehindAction_clauses {traffic schedule : String} (htraffic : IsTraffic traffic)
    (hschedule : IsSchedule schedule) : IsBehindAction (traffic ++ schedule) := by
  rcases htraffic with rfl | ⟨settings, -, -, rfl⟩
  · rcases hschedule with rfl | ⟨name, -, rfl⟩
    · exact .inl rfl
    · refine .inr ⟨" schedule", by decide, " ".toList ++ (inQuotes name).toList, ?_⟩
      simp
  · refine .inr ⟨" traffic", by decide, (String.join settings).toList ++ schedule.toList, ?_⟩
    simp only [String.toList_append, List.append_assoc]

/-- No word for a log begins what may stand behind the action. -/
theorem IsBehindAction.not_begins {clauses : String} (h : IsBehindAction clauses) :
    ∀ s ∈ ["log", " log"], ¬ s.toList <+: clauses.toList := by
  have hall : ∀ t ∈ clauseWords, ∀ s ∈ ["log", " log"],
      ¬ s.toList <+: t.toList ∧ ¬ t.toList <+: s.toList := by decide
  rcases h with rfl | ⟨t, ht, rest, hrest⟩
  · decide
  · intro s hs
    obtain ⟨hst, hts⟩ := hall t ht s hs
    rw [← hrest]
    exact not_prefix_append hst hts rest

namespace Creation

variable {x : Creation} {spaces clauses : String}

/-- The word for the log is read as it is written. -/
theorem run_scanLog_logText (log : Bool) (h : IsBehindAction clauses) :
    ∃ left, scanLog.run ((logText log).toList ++ clauses.toList) = some (log, left) := by
  cases log with
  | true => exact ⟨_, run_scanLog (.inr rfl) clauses.toList⟩
  | false => exact run_scanLog_of_not_begins (h.not_begins _ (by simp)) (h.not_begins _ (by simp))

/-- There is one space in front of the action, or none. -/
theorem isGap_replacement (x : Creation) : IsGap (optionally (fun _ => " ") x.replacement) := by
  cases x.replacement with
  | none => exact .inl rfl
  | some r => exact .inr rfl

/-- An address to put in ends at the space behind it, whatever its last characters are. -/
theorem run_scanNatAddress_line {cs left : List Char} (x : Creation)
    (hlog : scanLog.run cs = some (x.log, left)) :
    scanNatAddress.run ((optionally (" ip " ++ ·) x.header.natAddress).toList
      ++ ((optionally (" port " ++ ·) x.header.natPort).toList
        ++ ((optionally (fun _ => " ") x.replacement).toList ++ (x.action.word.toList ++ cs))))
      = some ((x.header.natAddress, x.header.natPort, x.action, x.log), left) := by
  have hw := x.isWritten_header
  have hgap := x.isGap_replacement
  have hend := run_scanPolicyEnd x.action hw.natPort hgap hlog
  rcases hnat : x.header.natAddress with _ | a
  · exact run_scanNatAddress_none hw.natPort hgap hlog
  · obtain ⟨hne, ha⟩ := hw.natAddress a hnat
    refine run_scanNatAddress_some hne ha hend ?_
    -- a space is next, so that no character more can belong to the address
    intro j hpos hle
    obtain ⟨r, hr, -⟩ := Option.bind_eq_some_iff.1 hnat
    have hspace : ∃ rest, (optionally (" port " ++ ·) x.header.natPort).toList
        ++ ((optionally (fun _ => " ") x.replacement).toList ++ (x.action.word.toList ++ cs))
        = ' ' :: rest := by
      rw [hr]
      cases x.header.natPort with
      | none => exact ⟨x.action.word.toList ++ cs, by simp⟩
      | some n =>
          rw [optionally_some, String.toList_append]
          exact ⟨_, rfl⟩
    obtain ⟨rest, hrest⟩ := hspace
    rw [hrest, List.takeWhile_cons_of_neg (by decide), List.length_nil] at hle
    omega

/-- **The line is taken as what was written**, whatever clauses stand behind it. -/
theorem run_scanPolicyCreate_line (hspaces : IsSpaces spaces) (hclauses : IsBehindAction clauses) :
    ∃ left, scanPolicyCreate.run ((x.line spaces).toList ++ clauses.toList)
      = some (.policyCreate x.header, left) := by
  obtain ⟨left, hlog⟩ := run_scanLog_logText x.log hclauses
  have hgap := x.isGap_replacement
  rw [toList_line]
  exact ⟨left, run_scanPolicyCreate x.isWritten_header hspaces (not_begins_nat hgap x.action _)
    (run_scanNatAddress_line x hlog)⟩

end Creation

/-! ## Trimming the line -/

/-- Blanks are dropped behind the last character that is none. -/
theorem dropBlanksEnd_append {cs : List Char} {c : Char} (hlast : cs.getLast? = some c)
    (hc : isBlank c = false) (ds : List Char) :
    dropBlanksEnd (cs ++ ds) = cs ++ dropBlanksEnd ds := by
  obtain ⟨front, rfl⟩ := List.getLast?_eq_some_iff.1 hlast
  unfold dropBlanksEnd
  rw [List.reverse_append, List.dropWhile_append]
  split
  · rename_i hempty
    have hnil : ds.reverse.dropWhile isBlank = [] := List.isEmpty_iff.1 hempty
    rw [hnil, List.reverse_append, List.reverse_singleton, List.singleton_append,
      List.dropWhile_cons_of_neg (by simp [hc])]
    simp
  · simp

/-- Clauses for the bandwidth or the schedule are such clauses without the blanks at their end. -/
theorem IsBehindAction.trimmed {clauses : String} (h : IsBehindAction clauses) :
    IsBehindAction (String.ofList (dropBlanksEnd clauses.toList)) := by
  rcases h with rfl | ⟨t, ht, rest, hrest⟩
  · exact .inl rfl
  · have hlast : ∃ c, t.toList.getLast? = some c ∧ isBlank c = false := by
      rcases List.mem_cons.1 ht with rfl | ht
      · exact ⟨'c', by decide, by decide⟩
      · obtain rfl := List.mem_singleton.1 ht
        exact ⟨'e', by decide, by decide⟩
    obtain ⟨c, hc, hblank⟩ := hlast
    refine .inr ⟨t, ht, dropBlanksEnd rest, ?_⟩
    rw [String.toList_ofList, ← hrest, dropBlanksEnd_append hc hblank]

namespace Creation

variable {x : Creation} {spaces clauses : String}

/-- The line ends in the word of its action or in the word for the log. -/
theorem getLast?_line (x : Creation) (spaces : String) :
    ∃ c, (x.line spaces).toList.getLast? = some c ∧ isBlank c = false := by
  have hend : ∃ c, (x.action.word ++ logText x.log).toList.getLast? = some c ∧
      isBlank c = false := by
    cases x.action
    all_goals
      cases x.log
      all_goals exact ⟨_, rfl, by decide⟩
  obtain ⟨c, hc, hblank⟩ := hend
  refine ⟨c, ?_, hblank⟩
  unfold line
  rw [String.append_assoc, String.toList_append, List.getLast?_append, hc]
  rfl

/-- Nothing is trimmed off the line itself. -/
theorem trim_line (x : Creation) (spaces clauses : String) :
    (trim (x.line spaces ++ clauses)).toList
      = (x.line spaces).toList ++ dropBlanksEnd clauses.toList := by
  obtain ⟨c, hlast, hblank⟩ := getLast?_line x spaces
  have hfirst : ∃ rest, (x.line spaces).toList = 's' :: rest := by
    unfold line
    simp only [String.append_assoc]
    rw [String.toList_append]
    exact ⟨_, rfl⟩
  have hfront : ((x.line spaces).toList ++ clauses.toList).dropWhile isBlank
      = (x.line spaces).toList ++ clauses.toList := by
    obtain ⟨rest, hrest⟩ := hfirst
    rw [hrest, List.cons_append, List.dropWhile_cons_of_neg (by decide)]
  rw [trim, trimChars, String.toList_ofList, String.toList_append, hfront,
    dropBlanksEnd_append hlast hblank]

/-- **The trimmed line is found to create what was written.** -/
theorem classify_line (hspaces : IsSpaces spaces) (hclauses : IsBehindAction clauses) :
    Directive.classify (trim (x.line spaces ++ clauses)) = .ok (some (.policyCreate x.header)) := by
  obtain ⟨left, hrun⟩ := run_scanPolicyCreate_line (x := x) hspaces hclauses.trimmed
  rw [String.toList_ofList, ← trim_line] at hrun
  exact isTable_families.classifyIn_eq_some_iff.2 ⟨_, policyCreate_mem_forms, left, hrun⟩

/-! ## The policy of the line -/

/-- The policy that was written is new to a reader without policies. -/
theorem newPolicy_header (x : Creation) : Reading.newPolicy [] x.header = .ok x.policy := by
  have hport : x.header.natPort.mapM readNumber
      = .ok (x.replacement.bind fun r => r.port.map fun n => (n.value : Int)) := by
    unfold header
    rcases x.replacement with _ | ⟨mode, hmode, address, _ | n⟩
    · rfl
    · rfl
    · show (some n.text).mapM readNumber = _
      rw [Option.mapM_some, n.readNumber_text]
      rfl
  have hvalid : (Reading.policyOf x.header x.id.value
      (x.replacement.bind fun r => r.port.map fun n => (n.value : Int))).isValid = true := by
    rw [Reading.isValid_policyOf]
    exact ⟨Int.natCast_pos.2 x.id_pos, x.fromZone.2.1, x.toZone.2.1⟩
  exact Reading.newPolicy_eq_ok.2 ⟨_, _, x.id.readNumber_text, hport, List.not_mem_nil, hvalid, rfl⟩

/-- **A policy that is written is read back.** Read over any catalog, its one line leaves a
configuration with this policy, and with nothing else but the catalog. It does not matter how many
spaces are in front of the source, nor which clauses stand behind the action. -/
theorem ofLines_line (services : Catalog) (resolver : Option Resolver) (x : Creation)
    (spaces clauses : String) (hspaces : IsSpaces spaces) (hclauses : IsBehindAction clauses) :
    Configuration.ofLines services resolver [x.line spaces ++ clauses]
      = .ok { policies := [x.policy], services } := by
  rw [Configuration.ofLines, Reading.lines, Reading.linesFrom_of_does
    (classify_line hspaces hclauses) (.policyCreate x.newPolicy_header)]
  rfl

/-- A policy whose texts look like other parts of its line. -/
def misleading : Creation where
  id := ⟨"0012", ⟨by decide, by simp; decide⟩, by decide⟩
  id_pos := by decide
  name := some ⟨"set policy id 9", by decide, by simp⟩
  fromZone := ⟨"from\nto", by decide, by simp⟩
  toZone := ⟨"deny log", by decide, by simp⟩
  source := ⟨" nat dst ", by decide, by simp⟩
  destination := ⟨"any", by decide, by simp⟩
  service := ⟨"ANY", by decide, by simp⟩
  replacement := some {
    mode := .source
    mode_ne_none := by decide
    address := some ⟨"10.0.0.1permit", by decide, by simp⟩
    port := some (.ofNat 80 (by decide)) }
  action := .reject
  log := true

/-- It is read back, whatever its texts look like. -/
theorem ofLines_misleading :
    Configuration.ofLines .predefined none
      ["set policy id 0012 name \"set policy id 9\" from \"from\nto\" to \"deny log\"   "
        ++ "\" nat dst \" \"any\" \"ANY\" nat src ip 10.0.0.1permit port 80 reject log"
        ++ " traffic gbw 10 priority 0 schedule \"night\""]
      = .ok {
          policies := [{
            id := 12, name := "set policy id 9", fromZone := "from\nto", toZone := "deny log",
            sources := [" nat dst "], destinations := ["any"], services := ["ANY"], nat := .source,
            natAddress := "10.0.0.1permit", natPort := some 80, action := .reject, log := true }],
          services := .predefined } := by
  have hline : misleading.line "   "
      = "set policy id 0012 name \"set policy id 9\" from \"from\nto\" to \"deny log\"   "
        ++ "\" nat dst \" \"any\" \"ANY\" nat src ip 10.0.0.1permit port 80 reject log" := by
    decide +kernel
  have htraffic : IsTraffic " traffic gbw 10 priority 0" := by
    have hgbw : ∀ c ∈ "gbw".toList, 'a' ≤ c ∧ c ≤ 'z' := by simp
    have hpriority : ∀ c ∈ "priority".toList, 'a' ≤ c ∧ c ≤ 'z' := by simp
    refine .inr ⟨[" gbw 10", " priority 0"], by decide, fun t ht => ?_, by decide⟩
    rcases List.mem_cons.1 ht with rfl | ht
    · exact ⟨"gbw", toString 10, by decide, hgbw, isNumeral_toString 10, by decide⟩
    · obtain rfl := List.mem_singleton.1 ht
      exact ⟨"priority", toString 0, by decide, hpriority, isNumeral_toString 0, by decide⟩
  have hschedule : IsSchedule " schedule \"night\"" :=
    .inr ⟨"night", ⟨by decide, by simp⟩, by decide⟩
  have hread := ofLines_line .predefined none misleading "   "
    (" traffic gbw 10 priority 0" ++ " schedule \"night\"") ⟨by decide, by simp⟩
    (isBehindAction_clauses htraffic hschedule)
  rw [hline] at hread
  exact hread

end Creation

end ZoneFirewall
