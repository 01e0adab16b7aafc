import ZoneFirewall.Proofs.DirectiveFields
import ZoneFirewall.Proofs.LineByLine

/-!
# Which lines are accepted

What lines have to satisfy is a matter of their wording: of the line itself, of the block that is
open before it, and of the directives before it. The state of the reading is not mentioned.

* `directivesOf`: the directives of the lines that stand outside all blocks.
* `Directive.Refused`, `Violates`: why a directive may not follow others, and a line not follow
  others. `Regular`: lines of which none may not.
* `Reading.Recalls`: what the state knows of the directives so far. `Does.recalls`,
  `LeadsTo.recalls`, `recalls_of_walk`: **it knows the policies and whether there is a service to
  continue.**
* `Stops.violates`, `exists_stops_of_violates`: **a line stops the reading exactly if it violates
  the rules.**
* `ofLines_regular`: **lines are accepted exactly if they are regular and no block is left open**,
  and else the first line that is at fault is reported.
-/

namespace ZoneFirewall

open Text

/-! ## Directives of lines -/

/-- The directives among lines of which the first has a number, given the block that is open before
them. -/
def directivesFrom (number : Nat) (b : Option OpenBlock) : List String → List Directive
  | [] => []
  | text :: rest =>
    (if b.isSome then [] else (directiveOf? text).toList)
      ++ directivesFrom (number + 1) (nextBlock number text b) rest

/-- The directives among some lines. -/
def directivesOf (texts : List String) : List Directive := directivesFrom 1 none texts

/-- The directives of lines after others are those of both, the block that is open in between given.
-/
theorem directivesFrom_append (first second : List String) (number : Nat) (b : Option OpenBlock) :
    directivesFrom number b (first ++ second)
      = directivesFrom number b first
        ++ directivesFrom (number + first.length) (openBlockFrom number b first) second := by
  induction first generalizing number b with
  | nil => rfl
  | cons text first ih =>
      rw [List.cons_append, directivesFrom, directivesFrom, openBlockFrom, ih, List.append_assoc,
        List.length_cons, Nat.add_right_comm, Nat.add_assoc]

/-- A further line adds its directive, unless it stands in a block. -/
theorem directivesOf_append_singleton (before : List String) (text : String) :
    directivesOf (before ++ [text])
      = directivesOf before
        ++ if (openBlock before).isSome then [] else (directiveOf? text).toList := by
  rw [directivesOf, directivesFrom_append, directivesFrom, directivesFrom, List.append_nil]
  rfl

/-! ## Rules -/

/-- Whether a directive defines a service, which later ones may continue. -/
def Directive.definesService : Directive → Bool
  | .service _ _ => true
  | _ => false

/-- The number of the policy that a directive creates. -/
def Directive.creates? : Directive → Option Int
  | .policyCreate h => some (numeralValue h.id)
  | _ => none

/-- Why a directive may not follow others. Several of the reasons may hold at once. -/
inductive Directive.Refused (earlier : List Directive) : Directive → ReadFault → Prop where
  /-- A numeral that is converted has too many digits. -/
  | tooManyDigits {d : Directive} {n : String} :
      n ∈ d.numerals → digitLimit < n.length →
        Refused earlier d (.numeral (.tooManyDigits n.length))
  /-- No service has been defined that could be continued. -/
  | nothingToContinue {name : String} {clause : ServiceClause} :
      (∀ d ∈ earlier, d.definesService = false) →
        Refused earlier (.serviceContinue name clause) (.nothingToContinue name)
  /-- The address and the mask are none. -/
  | invalidAddress {zone name host mask : String} {description : Option String}
      {e : InterfaceError} :
      Interface.parseMasked host mask = .error e →
        Refused earlier (.address zone name host (some mask) description)
          (.invalidAddress host mask e)
  /-- A policy of that number has been created. -/
  | policyDefinedTwice {h : PolicyHeader} :
      (numeralValue h.id : Int) ∈ earlier.filterMap creates? →
        Refused earlier (.policyCreate h) (.policyDefinedTwice (numeralValue h.id))
  /-- The number of the policy is zero. -/
  | numberZero {h : PolicyHeader} :
      numeralValue h.id = 0 →
        Refused earlier (.policyCreate h)
          (.invalidPolicy (Reading.policyOf h 0 (h.natPort.map fun n => (numeralValue n : Int))))
  /-- The policy of a block has not been created. -/
  | blockNotFound {text : String} :
      (numeralValue text : Int) ∉ earlier.filterMap creates? →
        Refused earlier (.policyBlock text) (.policyNotFound (numeralValue text))
  /-- The policy of a flag has not been created. -/
  | flagNotFound {text : String} {flag : PolicyFlag} {value : Option String} :
      (numeralValue text : Int) ∉ earlier.filterMap creates? →
        Refused earlier (.policyFlag text flag value) (.policyNotFound (numeralValue text))

/-- Why a line may not follow others. -/
inductive Violates (before : List String) (text : String) : ReadFault → Prop where
  /-- Outside all blocks, the line is of a family and has none of its forms. -/
  | malformed {f : Family} :
      openBlock before = none → f ∈ families → f.Heads (trim text) →
        f.read? (trim text).toList = none →
          Violates before text (.directive (.malformed f.head (trim text)))
  /-- Outside all blocks, the line is a directive that may not follow those before it. -/
  | refused {d : Directive} {fault : ReadFault} :
      openBlock before = none → directiveOf? text = some d →
        d.Refused (directivesOf before) fault → Violates before text fault
  /-- In a block, the line neither ends the block nor is empty, and has none of the forms there. -/
  | unexpected {b : OpenBlock} :
      openBlock before = some b → trim text ≠ blockEnd → trim text ≠ "" →
        (∀ l, BlockLine.classify (trim text) ≠ .ok l) →
          Violates before text (.directive (.unexpectedInBlock (trim text)))
  /-- In a block, the line is a log option other than the one that is known. -/
  | unsupportedLogOption {b : OpenBlock} {option : String} :
      openBlock before = some b → BlockLine.classify (trim text) = .ok (.log option) →
        option ≠ Reading.sessionLogOption → Violates before text (.unsupportedLogOption option)

/-- Lines none of which violates the rules. -/
def Regular (texts : List String) : Prop :=
  ∀ before text after, texts = before ++ text :: after → ∀ fault, ¬ Violates before text fault

namespace Reading

variable {resolver : Option Resolver} {services : Catalog} {s s' : Reading}
  {place place' : Place} {number : Nat} {d : Directive} {earlier : List Directive}
  {text : String} {before texts : List String} {fault : ReadFault}

/-! ## What the state recalls -/

/-- What the state knows of the directives so far. -/
structure Recalls (s : Reading) (earlier : List Directive) : Prop where
  /-- The policies are those that have been created. -/
  policies : s.configuration.policies.map (·.id) = earlier.filterMap Directive.creates?
  /-- There is a service to continue if one has been defined. -/
  lastService : s.lastService.isSome = earlier.any Directive.definesService

/-- A change to a policy leaves the numbers as they are. -/
theorem map_id_onPolicy {id : Int} {change : Policy → Policy}
    (hchange : ∀ p, (change p).id = p.id) :
    (s.onPolicy id change).configuration.policies.map (·.id)
      = s.configuration.policies.map (·.id) := by
  simp only [onPolicy, Configuration.withPolicy, List.map_map]
  refine List.map_congr_left fun p _ => ?_
  simp only [Function.comp_apply]
  split
  · exact hchange p
  · rfl

/-- A definition line makes its service the last one. -/
theorem withDefinition_lastService {name : String} {d : Definition} :
    (s.withDefinition name d).lastService = some name := by
  unfold withDefinition
  split
  · rfl
  · rfl

/-- It leaves the policies as they are. -/
theorem withDefinition_policies {name : String} {d : Definition} :
    (s.withDefinition name d).configuration.policies = s.configuration.policies := by
  unfold withDefinition
  split
  · rfl
  · rfl

/-- A flag leaves the number of its policy. -/
theorem id_flagChange (flag : PolicyFlag) (value : Option String) (p : Policy) :
    (flagChange flag value p).id = p.id := by
  cases flag with
  | disable => rfl
  | application => rfl

/-- So does a line of its block. -/
theorem id_of_blockChange {l : BlockLine} {change : Policy → Policy}
    (h : blockChange l = .ok change) (p : Policy) : (change p).id = p.id := by
  rcases l with ⟨kind, name⟩ | option
  · cases h
    cases kind with
    | service => rfl
    | destination => rfl
    | source => rfl
  · simp only [blockChange] at h
    split at h
    · cases h
      rfl
    · cases h

/-- A directive that neither creates a policy nor defines a service leaves what is recalled. -/
theorem Recalls.append (hs : s.Recalls earlier) (hcreates : d.creates? = none)
    (hdefines : d.definesService = false)
    (hpolicies : s'.configuration.policies.map (·.id) = s.configuration.policies.map (·.id))
    (hlast : s'.lastService = s.lastService) : s'.Recalls (earlier ++ [d]) := by
  refine ⟨?_, ?_⟩
  · rw [hpolicies, hs.policies, List.filterMap_append, List.filterMap_cons_none hcreates,
      List.filterMap_nil, List.append_nil]
  · rw [hlast, hs.lastService, List.any_append, List.any_cons, List.any_nil, hdefines,
      Bool.or_false, Bool.or_false]

/-- **A directive adds itself to what the state recalls.** -/
theorem Does.recalls (h : Does resolver number s d place' s') (hd : d.WellWritten)
    (hs : s.Recalls earlier) : s'.Recalls (earlier ++ [d]) := by
  cases h with
  | service =>
      refine ⟨?_, ?_⟩
      · rw [withDefinition_policies, hs.policies, List.filterMap_append,
          List.filterMap_cons_none rfl, List.filterMap_nil, List.append_nil]
      · rw [withDefinition_lastService]
        simp [Directive.definesService]
  | policyCreate hp =>
      obtain ⟨id, natPort, hid, -, -, -, rfl⟩ := newPolicy_eq_ok.1 hp
      have hvalue := eq_numeralValue (hd.1 _ List.mem_cons_self) hid
      refine ⟨?_, ?_⟩
      · simp only [Configuration.addPolicy, List.map_append, hs.policies, List.filterMap_append]
        rw [hvalue]
        rfl
      · rw [List.any_append, ← hs.lastService]
        simp [Directive.definesService]
  | @address _ _ _ _ _ a _ =>
      rcases a with problem | i
      · exact hs.append rfl rfl rfl rfl
      · exact hs.append rfl rfl rfl rfl
  | policyFlag => exact hs.append rfl rfl (map_id_onPolicy (id_flagChange _ _)) rfl
  | _ => exact hs.append rfl rfl rfl rfl

/-- A line adds its directive, if it stands outside all blocks and is one. -/
theorem LeadsTo.recalls (h : LeadsTo resolver number s text place place' s')
    (hplace : place.Stands (openBlock before)) (hs : s.Recalls (directivesOf before)) :
    s'.Recalls (directivesOf (before ++ [text])) := by
  rw [directivesOf_append_singleton]
  generalize openBlock before = b at hplace
  cases h with
  | passedOver hnone =>
      cases hplace
      rw [directiveOf?, hnone]
      simpa using hs
  | directive hsome hdoes =>
      cases hplace
      rw [directiveOf?, hsome]
      exact hdoes.recalls (exists_family_of_classify hsome).1 hs
  | blockLine _ _ hchange =>
      cases hplace
      simp only [Option.isSome_some, if_true, List.append_nil]
      exact ⟨(map_id_onPolicy (id_of_blockChange hchange)).trans hs.policies, hs.lastService⟩
  | _ =>
      cases hplace
      simpa using hs

/-- **A walk recalls the directives of its lines.** -/
theorem recalls_of_walk (h : walk resolver 1 .topLevel { configuration := { services } } texts
    = some (place, s)) : s.Recalls (directivesOf texts) := by
  -- From the end, since whether a line is a directive depends on the lines before it.
  induction texts using List.reverseRecOn generalizing place s with
  | nil =>
      cases h
      exact ⟨rfl, rfl⟩
  | append_singleton texts text ih =>
      obtain ⟨place₁, s₁, hwalk, hleads⟩ := walk_append_singleton_eq_some.1 h
      exact hleads.recalls (stands_of_walk hwalk .topLevel) (ih hwalk)

/-! ## Lines that stop the reading -/

/-- A directive that fails is refused. -/
theorem Fails.refused (h : Fails s d fault) (hd : d.WellWritten) (hs : s.Recalls earlier) :
    d.Refused earlier fault := by
  cases h with
  | numeral hn hread =>
      obtain ⟨hlong, rfl⟩ := tooManyDigits_of_readNumber (hd.1 _ hn) hread
      exact .tooManyDigits hn hlong
  | nothingToContinue hnone =>
      have hany := hs.lastService
      rw [hnone, Option.isSome_none, eq_comm, List.any_eq_false] at hany
      exact .nothingToContinue fun d hmem => Bool.eq_false_iff.2 (hany d hmem)
  | invalidAddress hparse => exact .invalidAddress hparse
  | policyDefinedTwice hid hmem =>
      have hvalue := eq_numeralValue (hd.1 _ List.mem_cons_self) hid
      rw [hs.policies, hvalue] at hmem
      rw [hvalue]
      exact .policyDefinedTwice hmem
  | @invalidPolicy header id natPort hid hport hinvalid =>
      have hvalue := eq_numeralValue (hd.1 _ List.mem_cons_self) hid
      have hzero : numeralValue header.id = 0 := by
        rw [Bool.eq_false_iff, Ne, isValid_policyOf] at hinvalid
        by_contra hne
        exact hinvalid ⟨by omega, hd.2⟩
      have hnat : natPort = header.natPort.map fun n => (numeralValue n : Int) :=
        eq_map_numeralValue
          (fun n hn => hd.1 n (by simp [Directive.numerals, Option.mem_def.1 hn])) hport
      rw [hvalue, hzero, hnat]
      exact .numberZero hzero
  | blockNotFound hid hmem =>
      have hvalue := eq_numeralValue (hd.1 _ List.mem_cons_self) hid
      rw [hs.policies, hvalue] at hmem
      rw [hvalue]
      exact .blockNotFound hmem
  | flagNotFound hid hmem =>
      have hvalue := eq_numeralValue (hd.1 _ List.mem_cons_self) hid
      rw [hs.policies, hvalue] at hmem
      rw [hvalue]
      exact .flagNotFound hmem

/-- A directive that is refused fails, though perhaps for another reason. -/
theorem exists_fails_of_refused (h : d.Refused earlier fault) (hd : d.WellWritten)
    (hs : s.Recalls earlier) : ∃ fault', Fails s d fault' := by
  -- A numeral that is too long makes the directive fail in any case.
  have hfits : ∀ n ∈ d.numerals,
      (∃ fault', Fails s d fault') ∨ readNumber n = .ok (numeralValue n : Int) := by
    intro n hn
    by_cases hlength : n.length ≤ digitLimit
    · exact .inr (by rw [readNumber_of_isNumeral (hd.1 n hn), if_pos hlength])
    · exact .inl ⟨_, .numeral hn (by rw [readNumber_of_isNumeral (hd.1 n hn), if_neg hlength])⟩
  cases h with
  | tooManyDigits hn hlong =>
      exact ⟨_, .numeral hn (by rw [readNumber_of_isNumeral (hd.1 _ hn), if_neg (by omega)])⟩
  | nothingToContinue hnone =>
      have hlast := hs.lastService
      rw [List.any_eq_false.2 fun d hmem => by rw [hnone d hmem]; exact Bool.false_ne_true,
        Option.isSome_eq_false_iff, Option.isNone_iff_eq_none] at hlast
      exact ⟨_, .nothingToContinue hlast⟩
  | invalidAddress hparse => exact ⟨_, .invalidAddress hparse⟩
  | policyDefinedTwice hmem =>
      rcases hfits _ List.mem_cons_self with h | hid
      · exact h
      · exact ⟨_, .policyDefinedTwice hid (by rw [hs.policies]; exact hmem)⟩
  | @numberZero header hzero =>
      rcases hfits _ List.mem_cons_self with h | hid
      · exact h
      · rcases hport : header.natPort.mapM readNumber with fault' | natPort
        · rcases hheader : header.natPort with _ | n
          · rw [hheader] at hport
            cases hport
          · rw [hheader, Option.mapM_some] at hport
            exact ⟨_, .numeral (by simp [Directive.numerals, hheader]) (map_eq_error.1 hport)⟩
        · refine ⟨_, .invalidPolicy hid hport ?_⟩
          rw [Bool.eq_false_iff, Ne, isValid_policyOf, hzero]
          exact fun h => absurd h.1 (by decide)
  | blockNotFound hmem =>
      rcases hfits _ List.mem_cons_self with h | hid
      · exact h
      · exact ⟨_, .blockNotFound hid (by rw [hs.policies]; exact hmem)⟩
  | flagNotFound hmem =>
      rcases hfits _ List.mem_cons_self with h | hid
      · exact h
      · exact ⟨_, .flagNotFound hid (by rw [hs.policies]; exact hmem)⟩

/-- **A line that stops the reading violates the rules.** -/
theorem Stops.violates (h : Stops s text place fault) (hplace : place.Stands (openBlock before))
    (hs : s.Recalls (directivesOf before)) : Violates before text fault := by
  generalize hopen : openBlock before = b at hplace
  cases h with
  | malformed hmalformed =>
      cases hplace
      obtain ⟨f, hf, hheads, hread, rfl⟩ := classify_eq_error_iff.1 hmalformed
      exact .malformed hopen hf hheads hread
  | @directive d _ hsome hfails =>
      cases hplace
      exact .refused hopen (directiveOf?_eq_some.2 hsome)
        (hfails.refused (exists_family_of_classify hsome).1 hs)
  | @unexpected id openedAt fault hend hblank hnone =>
      cases hplace
      obtain rfl : fault = .unexpectedInBlock (trim text) := by
        unfold BlockLine.classify at hnone
        split at hnone
        · cases hnone
        · cases hnone
          rfl
      refine .unexpected hopen hend hblank fun l hl => ?_
      rw [hnone] at hl
      cases hl
  | unsupported hend hlog hoption =>
      cases hplace
      exact .unsupportedLogOption hopen hlog hoption

/-- **A line that violates the rules stops the reading**, though perhaps for another reason. -/
theorem exists_stops_of_violates (h : Violates before text fault)
    (hplace : place.Stands (openBlock before)) (hs : s.Recalls (directivesOf before)) :
    ∃ fault', Stops s text place fault' := by
  cases h with
  | malformed hopen hf hheads hread =>
      rw [hopen] at hplace
      cases hplace
      exact ⟨_, .malformed (classify_eq_error_iff.2 ⟨_, hf, hheads, hread, rfl⟩)⟩
  | @refused d _ hopen hd hrefused =>
      rw [hopen] at hplace
      cases hplace
      have hsome := directiveOf?_eq_some.1 hd
      obtain ⟨fault', hfails⟩ :=
        exists_fails_of_refused hrefused (exists_family_of_classify hsome).1 hs
      exact ⟨fault', .directive hsome hfails⟩
  | unexpected hopen hend hblank hnone =>
      rw [hopen] at hplace
      cases hplace
      rcases hclass : BlockLine.classify (trim text) with fault' | l
      · exact ⟨_, .unexpected hend hblank hclass⟩
      · exact absurd hclass (hnone l)
  | unsupportedLogOption hopen hlog hoption =>
      rw [hopen] at hplace
      cases hplace
      have hend : trim text ≠ ZoneFirewall.blockEnd := by
        intro hend
        rw [hend] at hlog
        cases hlog
      exact ⟨_, .unsupported hend hlog hoption⟩

/-- Lines through which there is a walk are regular. -/
theorem regular_of_walk (h : walk resolver 1 .topLevel { configuration := { services } } texts
    = some (place, s)) : Regular texts := by
  rintro before text after rfl fault hviolates
  rw [List.append_cons, walk_append] at h
  obtain ⟨⟨place₁, s₁⟩, hwalk, -⟩ := Option.bind_eq_some_iff.1 h
  obtain ⟨place₀, s₀, hwalk, hleads⟩ := walk_append_singleton_eq_some.1 hwalk
  obtain ⟨fault', hstops⟩ := exists_stops_of_violates hviolates
    (stands_of_walk hwalk .topLevel) (recalls_of_walk hwalk)
  exact hleads.not_stops hstops

end Reading

/-! ## Whole configurations -/

/-- The first line that violates the rules is the only one. -/
theorem Regular.eq_of_violates {before before' after after' : List String} {text text' : String}
    {fault fault' : ReadFault} (hbefore : Regular before) (hbefore' : Regular before')
    (hviolates : Violates before text fault) (hviolates' : Violates before' text' fault')
    (h : before ++ text :: after = before' ++ text' :: after') :
    before = before' ∧ text = text' := by
  -- Whichever of the two comes later has the other one among the lines before it.
  rcases List.append_eq_append_iff.1 h with ⟨between, rfl, hafter⟩ | ⟨between, rfl, hafter⟩
  · rcases between with _ | ⟨t, between⟩
    · cases hafter
      exact ⟨(List.append_nil _).symm, rfl⟩
    · cases hafter
      exact absurd hviolates (hbefore' _ _ _ rfl _)
  · rcases between with _ | ⟨t, between⟩
    · cases hafter
      exact ⟨List.append_nil _, rfl⟩
    · cases hafter
      exact absurd hviolates' (hbefore _ _ _ rfl _)

/-- A block that is open has been opened with a numeral. -/
theorem isNumeral_of_openBlock {texts : List String} {b : OpenBlock}
    (h : openBlock texts = some b) : IsNumeral b.policy := by
  obtain ⟨before, text, after, -, -, -, hopens⟩ := exists_opening h
  obtain ⟨d, hd, hopens⟩ := Option.bind_eq_some_iff.1 hopens
  cases d with
  | policyBlock id =>
      cases hopens
      exact (exists_family_of_classify (directiveOf?_eq_some.1 hd)).1.1 _ List.mem_cons_self
  | _ => cases hopens

/-- **Lines are accepted exactly if they are regular and no block is left open.** Otherwise the
first line that violates the rules is reported, with one of the rules that it violates; or, if
there is none, the line that opened the block. -/
theorem ofLines_regular (services : Catalog) (resolver : Option Resolver) (texts : List String) :
    ((∃ c, Configuration.ofLines services resolver texts = .ok c) ↔
        Regular texts ∧ openBlock texts = none) ∧
      (∀ before text after fault, texts = before ++ text :: after → Regular before →
        Violates before text fault → ∃ fault', Violates before text fault' ∧
          Configuration.ofLines services resolver texts = .error ⟨before.length + 1, fault'⟩) ∧
      ∀ b, Regular texts → openBlock texts = some b →
        Configuration.ofLines services resolver texts
          = .error ⟨b.line, .blockNotClosed (numeralValue b.policy)⟩ := by
  have hends := Reading.ends_lines resolver { configuration := { services } } texts
  rw [Configuration.ofLines]
  generalize Reading.lines { configuration := { services } } resolver texts = r at hends
  cases hends with
  | done hwalk hopen =>
      have hregular := Reading.regular_of_walk hwalk
      refine ⟨⟨fun _ => ⟨hregular, hopen⟩, fun _ => ⟨_, rfl⟩⟩, ?_, ?_⟩
      · intro before text after fault htexts _ hviolates
        exact absurd hviolates (hregular _ _ _ htexts _)
      · intro b _ hb
        rw [hopen] at hb
        cases hb
  | @notClosed _ b id hwalk hopen hread =>
      have hregular := Reading.regular_of_walk hwalk
      refine ⟨⟨nofun, ?_⟩, ?_, ?_⟩
      · rintro ⟨-, hnone⟩
        rw [hopen] at hnone
        cases hnone
      · intro before text after fault htexts _ hviolates
        exact absurd hviolates (hregular _ _ _ htexts _)
      · intro b' _ hb'
        rw [hopen] at hb'
        cases hb'
        rw [eq_numeralValue (isNumeral_of_openBlock hopen) hread]
  | @failed before after text place t fault htexts hwalk hstands hfail =>
      have hregular := Reading.regular_of_walk hwalk
      have hviolates := (Reading.stops_of_step_eq_error hfail).violates hstands
        (Reading.recalls_of_walk hwalk)
      refine ⟨⟨nofun, ?_⟩, ?_, ?_⟩
      · rintro ⟨hall, -⟩
        exact absurd hviolates (hall _ _ _ htexts _)
      · intro before' text' after' fault' htexts' hregular' hviolates'
        obtain ⟨rfl, rfl⟩ := hregular.eq_of_violates hregular' hviolates hviolates'
          (htexts.symm.trans htexts')
        exact ⟨fault, hviolates, rfl⟩
      · intro b hall
        exact absurd hviolates (hall _ _ _ htexts _)

/-- The block of a policy that has not been created is refused at its first line. -/
theorem ofLines_block_of_unknown_policy :
    Regular [] ∧ Violates [] " set policy id 7" (.policyNotFound 7) ∧
      ∃ fault, Violates [] " set policy id 7" fault ∧
        Configuration.ofLines .predefined none [" set policy id 7", "exit"]
          = .error ⟨1, fault⟩ := by
  have hregular : Regular [] := fun before text after h => by simp at h
  have hvalue : numeralValue "7" = 7 := by decide
  have hviolates : Violates [] " set policy id 7" (.policyNotFound 7) := by
    refine .refused rfl (d := .policyBlock "7") (by decide +kernel) ?_
    rw [show (7 : Int) = (numeralValue "7" : Int) by rw [hvalue]; rfl]
    exact .blockNotFound (by decide)
  have hrefused := (ofLines_regular .predefined none [" set policy id 7", "exit"]).2.1
    [] " set policy id 7" ["exit"] _ rfl hregular hviolates
  exact ⟨hregular, hviolates, hrefused⟩

end ZoneFirewall
