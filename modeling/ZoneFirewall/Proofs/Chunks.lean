import ZoneFirewall.Proofs.LineByLine

/-!
# Reading in chunks

Reading depends on the number of a line only in what it reports, and never on what has been
reported. So lines may be read in chunks: the numbers of a later chunk are those of the whole less
the length of the chunks before.

* `Diagnostic.later`, `ReadError.later`, `Place.later`: the same further down.
* `Reading.laterFrom`: the state whose last reports are further down. `step_laterFrom`,
  `linesFrom_laterFrom`: **lines that are further down do the same**, further down.
* `exists_reports_linesFrom`: reports are only added, each with the number of a line.
* `lines_append`: **reading two chunks one after the other is reading both at once**, but for the
  line numbers of the second.
-/

namespace ZoneFirewall

open Attempt

/-! ## Further down -/

/-- The diagnostic of a line further down. -/
def Diagnostic.later (n : Nat) (d : Diagnostic) : Diagnostic := { d with line := d.line + n }

/-- The error at a line further down. -/
def ReadError.later (n : Nat) (e : ReadError) : ReadError := { e with line := e.line + n }

/-- The place in a block that was opened further down. -/
def Place.later (n : Nat) : Place → Place
  | .topLevel => .topLevel
  | .block id openedAt => .block id (openedAt + n)

/-- A message with the number of a line names it. -/
theorem numbered_of_pos {line : Nat} (h : 0 < line) (message : String) :
    numbered line message = "Line " ++ toString line ++ ": " ++ message := by
  rw [numbered, if_neg (by omega)]
  rfl

/-- A report further down names its line there. -/
theorem Diagnostic.text_later {d : Diagnostic} (h : 0 < d.line) (n : Nat) :
    (d.later n).text = "Line " ++ toString (d.line + n) ++ ": " ++ d.problem.message :=
  numbered_of_pos (show 0 < d.line + n by omega) _

/-- So does an error, unless it names no line. -/
theorem ReadError.message_later {e : ReadError} (h : 0 < e.line) (n : Nat) :
    (e.later n).message = match e.fault with
      | .numeral error => error.message
      | fault => "Line " ++ toString (e.line + n) ++ ": " ++ fault.message := by
  have hlater : 0 < (e.later n).line := Nat.add_pos_left h n
  rcases e with ⟨line, fault⟩
  cases fault with
  | numeral error => rfl
  | _ => exact numbered_of_pos hlater _

namespace Reading

variable {resolver : Option Resolver} {s s' t : Reading} {place place' : Place} {number : Nat}
  {text : String} {texts first second : List String} {told n : Nat}

/-- The state with other reports. -/
def withDiagnostics (s : Reading) (ds : List Diagnostic) : Reading :=
  { s with configuration := { s.configuration with diagnostics := ds } }

/-- The state with the reports after the first ones further down. -/
def laterFrom (told n : Nat) (s : Reading) : Reading :=
  s.withDiagnostics (s.configuration.diagnostics.take told
    ++ (s.configuration.diagnostics.drop told).map (·.later n))

/-! ## Single lines -/

/-- A definition line does the same further down. -/
theorem withDefinition_laterFrom {name : String} {d : Definition} :
    (s.laterFrom told n).withDefinition name d = (s.withDefinition name d).laterFrom told n := by
  unfold withDefinition
  rw [show (s.laterFrom told n).definedServices = s.definedServices from rfl]
  split
  · rfl
  · rfl

/-- A report is added to those that are further down. -/
theorem withAddress_laterFrom (htold : told ≤ s.configuration.diagnostics.length)
    {zone name description : String} {a : Except Problem Interface} :
    (s.laterFrom told n).withAddress (number + n) zone name description a
      = (s.withAddress number zone name description a).laterFrom told n := by
  rcases a with problem | i
  · simp only [withAddress, laterFrom, withDiagnostics, Configuration.report,
      List.take_append_of_le_length htold, List.drop_append_of_le_length htold, List.map_append,
      List.append_assoc]
    rfl
  · rfl

/-- A directive further down does the same, further down. -/
theorem directive_laterFrom (htold : told ≤ s.configuration.diagnostics.length) (d : Directive) :
    outcome (directive resolver (number + n) d) (s.laterFrom told n)
      = (outcome (directive resolver number d) s).map
        fun r => (r.1.later n, r.2.laterFrom told n) := by
  cases d with
  | service name clause =>
      rw [directive_service, directive_service]
      rcases definitionOf clause with fault | d
      · rfl
      · simp only [Except.map, withDefinition_laterFrom]
        rfl
  | serviceContinue name clause =>
      rw [directive_serviceContinue, directive_serviceContinue,
        show (s.laterFrom told n).lastService = s.lastService from rfl]
      rcases s.lastService with _ | last
      · rfl
      · rcases definitionOf clause with fault | d
        · rfl
        · rfl
  | address zone name host mask description =>
      rw [directive_address, directive_address]
      rcases addressOf resolver zone name host mask with fault | a
      · rfl
      · simp only [Except.map, withAddress_laterFrom htold]
        rfl
  | policyCreate header =>
      rw [directive_policyCreate, directive_policyCreate,
        show (s.laterFrom told n).configuration.policies = s.configuration.policies from rfl]
      rcases newPolicy s.configuration.policies header with fault | p
      · rfl
      · rfl
  | policyBlock text =>
      rw [directive_policyBlock, directive_policyBlock,
        show (s.laterFrom told n).configuration.policies = s.configuration.policies from rfl]
      rcases policyIn s.configuration.policies text with fault | id
      · rfl
      · rfl
  | policyFlag text flag value =>
      rw [directive_policyFlag, directive_policyFlag,
        show (s.laterFrom told n).configuration.policies = s.configuration.policies from rfl]
      rcases policyIn s.configuration.policies text with fault | id
      · rfl
      · rfl
  | serviceTimeout | addressGroupAdd | addressGroupCreate | serviceGroupAdd | serviceGroupCreate =>
      rfl

/-- **A line further down does the same**, further down. -/
theorem step_laterFrom (htold : told ≤ s.configuration.diagnostics.length) :
    outcome (step resolver (number + n) (place.later n) text) (s.laterFrom told n)
      = (outcome (step resolver number place text) s).map
        fun r => (r.1.later n, r.2.laterFrom told n) := by
  cases place with
  | topLevel =>
      rw [Place.later, step_topLevel, step_topLevel]
      rcases Directive.classify (Text.trim text) with fault | _ | d
      · rfl
      · rfl
      · exact directive_laterFrom htold d
  | block id openedAt =>
      rw [Place.later, step_block, step_block]
      split
      · rfl
      · split
        · rfl
        · rcases BlockLine.classify (Text.trim text) with fault | b
          · rfl
          · dsimp only
            rcases blockChange b with fault | change
            · rfl
            · rfl

/-- A line adds at most one report, with its number. -/
theorem LeadsTo.diagnostics (h : LeadsTo resolver number s text place place' s') :
    s'.configuration.diagnostics = s.configuration.diagnostics ∨
      ∃ problem, s'.configuration.diagnostics
        = s.configuration.diagnostics ++ [⟨problem, number⟩] := by
  cases h with
  | directive _ hdoes =>
      cases hdoes with
      | service =>
          unfold withDefinition
          split
          · exact .inl rfl
          · exact .inl rfl
      | @address _ _ _ _ _ a _ =>
          rcases a with problem | i
          · exact .inr ⟨problem, rfl⟩
          · exact .inl rfl
      | _ => exact .inl rfl
  | _ => exact .inl rfl

/-! ## Runs -/

/-- **Lines further down do the same**, further down. -/
theorem linesFrom_laterFrom (htold : told ≤ s.configuration.diagnostics.length)
    (resolver : Option Resolver) (place : Place) (number n : Nat) (texts : List String) :
    linesFrom resolver (s.laterFrom told n) (place.later n) (number + n) texts
      = ((linesFrom resolver s place number texts).1.laterFrom told n,
        (linesFrom resolver s place number texts).2.map (·.later n)) := by
  induction texts generalizing number place s with
  | nil =>
      cases place with
      | topLevel => rfl
      | block id openedAt => rfl
  | cons text texts ih =>
      rw [linesFrom_cons, linesFrom_cons, step_laterFrom htold]
      rcases hstep : outcome (step resolver number place text) s with fault | ⟨place₁, s₁⟩
      · rfl
      · have htold₁ : told ≤ s₁.configuration.diagnostics.length := by
          rcases (step_eq_ok.1 hstep).diagnostics with h | ⟨problem, h⟩
          · rw [h]
            exact htold
          · rw [h, List.length_append]
            omega
        simp only [Except.map]
        rw [Nat.add_right_comm]
        exact ih htold₁ place₁ (number + 1)

/-- Reports are only added, each with the number of a line that was read. -/
theorem exists_reports_linesFrom (resolver : Option Resolver) (s : Reading) (place : Place)
    (number : Nat) (texts : List String) :
    ∃ reports, (linesFrom resolver s place number texts).1.configuration.diagnostics
        = s.configuration.diagnostics ++ reports ∧ ∀ d ∈ reports, number ≤ d.line := by
  induction texts generalizing number place s with
  | nil =>
      cases place with
      | topLevel => exact ⟨[], by simp [linesFrom]⟩
      | block id openedAt => exact ⟨[], by simp [linesFrom]⟩
  | cons text texts ih =>
      rw [linesFrom_cons]
      rcases hstep : outcome (step resolver number place text) s with fault | ⟨place₁, s₁⟩
      · exact ⟨[], by simp⟩
      · obtain ⟨reports, hreports, hline⟩ := ih s₁ place₁ (number + 1)
        have hline' : ∀ d ∈ reports, number ≤ d.line := fun d hd => Nat.le_of_succ_le (hline d hd)
        rcases (step_eq_ok.1 hstep).diagnostics with h | ⟨problem, h⟩
        · exact ⟨reports, by rw [← h]; exact hreports, hline'⟩
        · refine ⟨⟨problem, number⟩ :: reports, ?_, ?_⟩
          · rw [hreports, h, List.append_assoc]
            rfl
          · intro d hd
            rcases List.mem_cons.1 hd with rfl | hd
            · exact Nat.le_refl _
            · exact hline' d hd

/-- **Reading two chunks one after the other is reading both at once.** The lines of the second
chunk do the same as by themselves, but what they report, and the error if there is one, is further
down by the length of the first; so are the texts, each of which names its line unless it tells of
a numeral. -/
theorem lines_append (h : s.lines resolver first = (s', none)) (second : List String) :
    ∃ reports, (s'.lines resolver second).1.configuration.diagnostics
        = s'.configuration.diagnostics ++ reports ∧
      s.lines resolver (first ++ second)
        = ((s'.lines resolver second).1.withDiagnostics
            (s'.configuration.diagnostics ++ reports.map (·.later first.length)),
          (s'.lines resolver second).2.map (·.later first.length)) ∧
      (∀ d ∈ reports, 0 < d.line ∧ (d.later first.length).text
        = "Line " ++ toString (d.line + first.length) ++ ": " ++ d.problem.message) ∧
      ∀ e, (s'.lines resolver second).2 = some e → 0 < e.line ∧
        (e.later first.length).message = match e.fault with
          | .numeral error => error.message
          | fault => "Line " ++ toString (e.line + first.length) ++ ": " ++ fault.message := by
  have hends := ends_lines resolver s first
  rw [h] at hends
  cases hends with
  | done hwalk =>
      obtain ⟨reports, hreports, hline⟩ :=
        exists_reports_linesFrom resolver s' .topLevel 1 second
      refine ⟨reports, hreports, ?_, ?_, ?_⟩
      · have hself : s'.laterFrom s'.configuration.diagnostics.length first.length = s' := by
          simp [laterFrom, withDiagnostics]
        have hlater := linesFrom_laterFrom (Nat.le_refl s'.configuration.diagnostics.length)
          resolver .topLevel 1 first.length second
        rw [hself] at hlater
        rw [lines, linesFrom_append_of_walk hwalk]
        rw [show (s'.lines resolver second) = linesFrom resolver s' .topLevel 1 second from rfl]
        refine hlater.trans ?_
        rw [laterFrom, hreports]
        simp
      · intro d hd
        exact ⟨hline d hd, Diagnostic.text_later (hline d hd) _⟩
      · intro e he
        have hpos := line_pos_of_lines he
        exact ⟨hpos, ReadError.message_later hpos _⟩

/-- A host that is not looked up is reported at its line in the second chunk, and at the line after
those of the first in the whole. -/
theorem lines_append_with_report :
    ∃ s' t, lines { configuration := {} } none ["set service \"s\" protocol tcp"] = (s', none) ∧
      s'.lines none ["set service \"s\" + udp", "set address \"z\" \"n\" host"] = (t, none) ∧
      t.configuration.diagnostics = [⟨.lookupDisabled "z" "n" "host", 2⟩] ∧
      lines { configuration := {} } none
          ["set service \"s\" protocol tcp", "set service \"s\" + udp",
            "set address \"z\" \"n\" host"]
        = (t.withDiagnostics [⟨.lookupDisabled "z" "n" "host", 3⟩], none) := by
  obtain ⟨s', hs'⟩ : ∃ s', s' =
      (lines { configuration := {} } none ["set service \"s\" protocol tcp"]).1 := ⟨_, rfl⟩
  have hfirst : lines { configuration := {} } none ["set service \"s\" protocol tcp"]
      = (s', none) := Prod.ext hs'.symm (show (lines _ none _).2 = none by decide +kernel)
  obtain ⟨t, ht⟩ : ∃ t, t = (s'.lines none
      ["set service \"s\" + udp", "set address \"z\" \"n\" host"]).1 := ⟨_, rfl⟩
  have hsecond : s'.lines none ["set service \"s\" + udp", "set address \"z\" \"n\" host"]
      = (t, none) :=
    Prod.ext ht.symm (show (s'.lines none _).2 = none by rw [hs']; decide +kernel)
  have hbefore : s'.configuration.diagnostics = [] := by
    rw [hs']
    decide +kernel
  have hafter : t.configuration.diagnostics = [⟨.lookupDisabled "z" "n" "host", 2⟩] := by
    rw [ht, hs']
    decide +kernel
  obtain ⟨reports, hreports, hwhole, -, -⟩ := lines_append hfirst
    ["set service \"s\" + udp", "set address \"z\" \"n\" host"]
  rw [hsecond, hbefore, List.nil_append] at hreports hwhole
  rw [← hreports, hafter] at hwhole
  exact ⟨s', t, hfirst, hsecond, hafter, hwhole⟩

end Reading

end ZoneFirewall
