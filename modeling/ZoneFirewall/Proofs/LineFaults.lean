import ZoneFirewall.Proofs.LineEffects

/-!
# Why lines fail

* `Directive.numerals`: the numerals of a directive that are read as numbers.
* `Reading.Fails`, `Reading.Stops`: the causes for which directives and lines fail.
  `fails_of_directive_eq_error`, `stops_of_step_eq_error`: **they fail for one of them.**
  `Does.not_fails`, `LeadsTo.not_stops`: **what succeeds has none.**
-/

namespace ZoneFirewall

open Attempt

/-! ## Numerals -/

/-- The numerals of a service clause that are read. A protocol number is not. -/
def ServiceClause.numerals : ServiceClause → List String
  | .ports _ none => []
  | .ports _ (some r) => [r.sourceFirst, r.sourceLast, r.destinationFirst, r.destinationLast]
  | .icmp type code => [type, code]

/-- The numerals of a directive that are read. -/
def Directive.numerals : Directive → List String
  | .service _ clause | .serviceContinue _ clause => clause.numerals
  | .policyCreate h => h.id :: h.natPort.toList
  | .policyBlock id | .policyFlag id _ _ => [id]
  | _ => []

namespace Reading

variable {s : Reading} {resolver : Option Resolver} {number : Nat}

/-! ## Directives -/

/-- A clause has no definition because one of its numerals cannot be read. -/
theorem definitionOf_eq_error {clause : ServiceClause} {fault : ReadFault}
    (h : definitionOf clause = .error fault) :
    ∃ n ∈ clause.numerals, readNumber n = .error fault := by
  rcases clause with ⟨protocol, _ | r⟩ | ⟨type, code⟩
  · cases h
  · simp only [definitionOf, bind_eq_error, pure, Except.pure, reduceCtorEq, and_false,
      exists_false, or_false] at h
    rcases h with h | ⟨_, _, h | ⟨_, _, h | ⟨_, _, h⟩⟩⟩
    · exact ⟨_, by simp [ServiceClause.numerals], h⟩
    · exact ⟨_, by simp [ServiceClause.numerals], h⟩
    · exact ⟨_, by simp [ServiceClause.numerals], h⟩
    · exact ⟨_, by simp [ServiceClause.numerals], h⟩
  · simp only [definitionOf, bind_eq_error, pure, Except.pure, reduceCtorEq, and_false,
      exists_false, or_false] at h
    rcases h with h | ⟨_, _, h⟩
    · exact ⟨_, by simp [ServiceClause.numerals], h⟩
    · exact ⟨_, by simp [ServiceClause.numerals], h⟩

/-- Why a directive fails. Several of the causes may hold of one directive. -/
inductive Fails (s : Reading) : Directive → ReadFault → Prop where
  /-- A numeral cannot be read. -/
  | numeral {d : Directive} {n : String} {fault : ReadFault} :
      n ∈ d.numerals → readNumber n = .error fault → Fails s d fault
  /-- No service has been defined. -/
  | nothingToContinue {name : String} {clause : ServiceClause} :
      s.lastService = none → Fails s (.serviceContinue name clause) (.nothingToContinue name)
  /-- The address and the mask are none. -/
  | invalidAddress {zone name host mask : String} {description : Option String}
      {e : InterfaceError} :
      Interface.parseMasked host mask = .error e →
        Fails s (.address zone name host (some mask) description) (.invalidAddress host mask e)
  /-- There is a policy of that number. -/
  | policyDefinedTwice {h : PolicyHeader} {id : Int} :
      readNumber h.id = .ok id → id ∈ s.configuration.policies.map (·.id) →
        Fails s (.policyCreate h) (.policyDefinedTwice id)
  /-- The policy lacks what every policy needs. -/
  | invalidPolicy {h : PolicyHeader} {id : Int} {natPort : Option Int} :
      readNumber h.id = .ok id → h.natPort.mapM readNumber = .ok natPort →
        (policyOf h id natPort).isValid = false →
          Fails s (.policyCreate h) (.invalidPolicy (policyOf h id natPort))
  /-- There is no policy of the number of a block. -/
  | blockNotFound {text : String} {id : Int} :
      readNumber text = .ok id → id ∉ s.configuration.policies.map (·.id) →
        Fails s (.policyBlock text) (.policyNotFound id)
  /-- There is no policy of the number of a flag. -/
  | flagNotFound {text : String} {flag : PolicyFlag} {value : Option String} {id : Int} :
      readNumber text = .ok id → id ∉ s.configuration.policies.map (·.id) →
        Fails s (.policyFlag text flag value) (.policyNotFound id)

/-- A number is that of no policy because it cannot be read or there is none. -/
theorem policyIn_eq_error {policies : List Policy} {text : String} {fault : ReadFault}
    (h : policyIn policies text = .error fault) :
    readNumber text = .error fault ∨ ∃ id, readNumber text = .ok id ∧
      id ∉ policies.map (·.id) ∧ fault = .policyNotFound id := by
  simp only [policyIn, bind_eq_error, find?_isSome_iff] at h
  rcases h with h | ⟨id, hid, h⟩
  · exact .inl h
  · split at h
    · cases h
    · rename_i hnone
      cases h
      exact .inr ⟨id, hid, hnone, rfl⟩

/-- A policy cannot be created because one of its numerals cannot be read, its number is taken, or it
lacks what every policy needs. -/
theorem newPolicy_eq_error {policies : List Policy} {h : PolicyHeader} {fault : ReadFault}
    (hnew : newPolicy policies h = .error fault) :
    (∃ n ∈ h.id :: h.natPort.toList, readNumber n = .error fault) ∨
      (∃ id, readNumber h.id = .ok id ∧ id ∈ policies.map (·.id) ∧
        fault = .policyDefinedTwice id) ∨
      ∃ id natPort, readNumber h.id = .ok id ∧ h.natPort.mapM readNumber = .ok natPort ∧
        (policyOf h id natPort).isValid = false ∧
          fault = .invalidPolicy (policyOf h id natPort) := by
  simp only [newPolicy, bind_eq_error, find?_isSome_iff] at hnew
  rcases hnew with hid | ⟨id, hid, hnew⟩
  · exact .inl ⟨h.id, List.mem_cons_self, hid⟩
  by_cases htaken : id ∈ policies.map (·.id)
  · rw [if_pos htaken] at hnew
    cases hnew
    exact .inr (.inl ⟨id, hid, htaken, rfl⟩)
  rw [if_neg htaken, bind_eq_error] at hnew
  rcases hnew with hport | ⟨natPort, hport, hnew⟩
  · rcases hnat : h.natPort with _ | n
    · rw [hnat] at hport
      cases hport
    · rw [hnat, Option.mapM_some] at hport
      exact .inl ⟨n, by simp, by simpa [Functor.map, map_eq_error] using hport⟩
  · split at hnew
    · cases hnew
    · rename_i hvalid
      cases hnew
      exact .inr (.inr ⟨id, natPort, hid, hport, by simpa using hvalid, rfl⟩)

/-- A directive fails for one of the causes. -/
theorem fails_of_directive_eq_error {d : Directive} {fault : ReadFault}
    (h : outcome (directive resolver number d) s = .error fault) : Fails s d fault := by
  cases d with
  | service name clause =>
      rw [directive_service, map_eq_error] at h
      obtain ⟨n, hn, hread⟩ := definitionOf_eq_error h
      exact .numeral hn hread
  | serviceContinue name clause =>
      rw [directive_serviceContinue] at h
      split at h
      · rename_i hlast
        cases h
        exact .nothingToContinue hlast
      · rw [map_eq_error] at h
        obtain ⟨n, hn, hread⟩ := definitionOf_eq_error h
        exact .numeral hn hread
  | address zone name host mask description =>
      rw [directive_address, map_eq_error] at h
      unfold addressOf at h
      split at h
      · split at h
        · rename_i hparse
          cases h
          exact .invalidAddress hparse
        · cases h
      · cases h
  | policyCreate header =>
      rw [directive_policyCreate, map_eq_error] at h
      rcases newPolicy_eq_error h with
        ⟨n, hn, hread⟩ | ⟨id, hid, htaken, rfl⟩ | ⟨id, natPort, hid, hport, hvalid, rfl⟩
      · exact .numeral hn hread
      · exact .policyDefinedTwice hid htaken
      · exact .invalidPolicy hid hport hvalid
  | policyBlock text =>
      rw [directive_policyBlock, map_eq_error] at h
      rcases policyIn_eq_error h with h | ⟨id, hid, hnone, rfl⟩
      · exact .numeral (by simp [Directive.numerals]) h
      · exact .blockNotFound hid hnone
  | policyFlag text flag value =>
      rw [directive_policyFlag, map_eq_error] at h
      rcases policyIn_eq_error h with h | ⟨id, hid, hnone, rfl⟩
      · exact .numeral (by simp [Directive.numerals]) h
      · exact .flagNotFound hid hnone
  | serviceTimeout | addressGroupAdd | addressGroupCreate | serviceGroupAdd | serviceGroupCreate =>
      cases h

/-- What a definition is made of can be read. -/
theorem exists_readNumber_of_definitionOf {clause : ServiceClause} {d : Definition}
    (h : definitionOf clause = .ok d) : ∀ n ∈ clause.numerals, ∃ v, readNumber n = .ok v := by
  rcases clause with ⟨protocol, _ | r⟩ | ⟨type, code⟩
  · intro n hn
    cases hn
  · simp only [definitionOf, bind_eq_ok] at h
    obtain ⟨a, ha, b, hb, c, hc, e, he, -⟩ := h
    simp [ServiceClause.numerals, ha, hb, hc, he]
  · simp only [definitionOf, bind_eq_ok] at h
    obtain ⟨a, ha, b, hb, -⟩ := h
    simp [ServiceClause.numerals, ha, hb]

/-- A policy needs a positive number and two zones; a new one has the rest. -/
theorem isValid_policyOf {h : PolicyHeader} {id : Int} {natPort : Option Int} :
    (policyOf h id natPort).isValid = true ↔ 0 < id ∧ h.fromZone ≠ "" ∧ h.toZone ≠ "" := by
  simp [Policy.isValid, policyOf, and_assoc]

/-- A policy that can be created has a number that is not taken. -/
theorem newPolicy_eq_ok {policies : List Policy} {h : PolicyHeader} {p : Policy} :
    newPolicy policies h = .ok p ↔ ∃ id natPort, readNumber h.id = .ok id ∧
      h.natPort.mapM readNumber = .ok natPort ∧ id ∉ policies.map (·.id) ∧
        (policyOf h id natPort).isValid ∧ p = policyOf h id natPort := by
  simp only [newPolicy, bind_eq_ok, find?_isSome_iff]
  constructor
  · rintro ⟨id, hid, h⟩
    split at h
    · cases h
    · rename_i hnone
      obtain ⟨natPort, hport, h⟩ := bind_eq_ok.1 h
      split at h
      · rename_i hvalid
        cases h
        exact ⟨id, natPort, hid, hport, hnone, hvalid, rfl⟩
      · cases h
  · rintro ⟨id, natPort, hid, hport, hnone, hvalid, rfl⟩
    refine ⟨id, hid, ?_⟩
    rw [if_neg hnone, hport]
    simp only [bind, Except.bind, hvalid, if_true]
    rfl

/-- A policy is found if its number can be read and one of the policies has it. -/
theorem policyIn_eq_ok {policies : List Policy} {text : String} {id : Int} :
    policyIn policies text = .ok id
      ↔ readNumber text = .ok id ∧ id ∈ policies.map (·.id) := by
  simp only [policyIn, bind_eq_ok, find?_isSome_iff]
  constructor
  · rintro ⟨n, hn, h⟩
    split at h
    · rename_i hsome
      cases h
      exact ⟨hn, hsome⟩
    · cases h
  · rintro ⟨hid, hsome⟩
    exact ⟨id, hid, by rw [if_pos hsome]; rfl⟩

/-- The numerals of a directive that succeeds can be read. -/
theorem Does.exists_readNumber {d : Directive} {place : Place} {s' : Reading}
    (h : Does resolver number s d place s') : ∀ n ∈ d.numerals, ∃ v, readNumber n = .ok v := by
  cases h with
  | service hd => exact exists_readNumber_of_definitionOf hd
  | serviceContinue _ hd => exact exists_readNumber_of_definitionOf hd
  | policyCreate hp =>
      obtain ⟨id, natPort, hid, hport, -⟩ := newPolicy_eq_ok.1 hp
      intro n hn
      rcases List.mem_cons.1 hn with rfl | hn
      · exact ⟨id, hid⟩
      · rw [Option.mem_toList.1 hn, Option.mapM_some] at hport
        obtain ⟨v, hv, -⟩ := bind_eq_ok.1 hport
        exact ⟨v, hv⟩
  | policyBlock hid =>
      intro n hn
      rw [List.mem_singleton.1 hn]
      exact ⟨_, (policyIn_eq_ok.1 hid).1⟩
  | policyFlag hid =>
      intro n hn
      rw [List.mem_singleton.1 hn]
      exact ⟨_, (policyIn_eq_ok.1 hid).1⟩
  | address | serviceTimeout | addressGroupAdd | addressGroupCreate | serviceGroupAdd
  | serviceGroupCreate =>
      intro n hn
      cases hn

/-- A number that is found is not missing. -/
theorem mem_of_policyIn {policies : List Policy} {text : String} {id id' : Int}
    (h : policyIn policies text = .ok id) (hread : readNumber text = .ok id') :
    id' ∈ policies.map (·.id) := by
  obtain ⟨hid, hmem⟩ := policyIn_eq_ok.1 h
  rw [hid] at hread
  cases hread
  exact hmem

/-- A directive that succeeds has no cause to fail. -/
theorem Does.not_fails {d : Directive} {place : Place} {s' : Reading} {fault : ReadFault}
    (h : Does resolver number s d place s') : ¬ Fails s d fault := by
  intro hf
  cases hf with
  | numeral hn hread =>
      obtain ⟨v, hv⟩ := h.exists_readNumber _ hn
      rw [hv] at hread
      cases hread
  | nothingToContinue hnone =>
      cases h with
      | serviceContinue hlast =>
          rw [hlast] at hnone
          cases hnone
  | invalidAddress hparse =>
      cases h with
      | address ha =>
          simp only [addressOf, hparse] at ha
          cases ha
  | policyDefinedTwice hid htaken =>
      cases h with
      | policyCreate hp =>
          obtain ⟨id, natPort, hid', -, hfree, -⟩ := newPolicy_eq_ok.1 hp
          rw [hid] at hid'
          cases hid'
          exact hfree htaken
  | invalidPolicy hid _ hinvalid =>
      cases h with
      | policyCreate hp =>
          -- whether a new policy is valid does not depend on its port
          obtain ⟨id, natPort, hid', -, -, hvalid, -⟩ := newPolicy_eq_ok.1 hp
          rw [hid] at hid'
          cases hid'
          rw [Bool.eq_false_iff, Ne, isValid_policyOf] at hinvalid
          exact hinvalid (isValid_policyOf.1 hvalid)
  | blockNotFound hread hnone =>
      cases h with
      | policyBlock hid => exact hnone (mem_of_policyIn hid hread)
  | flagNotFound hread hnone =>
      cases h with
      | policyFlag hid => exact hnone (mem_of_policyIn hid hread)

/-! ## Lines -/

/-- Why a line fails that stands at a place. -/
inductive Stops (s : Reading) (text : String) : Place → ReadFault → Prop where
  /-- The line is not written as the lines of its family are. -/
  | malformed {fault : DirectiveFault} :
      Directive.classify (Text.trim text) = .error fault →
        Stops s text .topLevel (.directive fault)
  /-- The directive fails. -/
  | directive {d : Directive} {fault : ReadFault} :
      Directive.classify (Text.trim text) = .ok (some d) → Fails s d fault →
        Stops s text .topLevel fault
  /-- The line is none that a block may hold. -/
  | unexpected {id : Int} {openedAt : Nat} {fault : DirectiveFault} :
      Text.trim text ≠ ZoneFirewall.blockEnd → Text.trim text ≠ "" →
        BlockLine.classify (Text.trim text) = .error fault →
          Stops s text (.block id openedAt) (.directive fault)
  /-- The log option is none that a block may hold. -/
  | unsupported {id : Int} {openedAt : Nat} {option : String} :
      Text.trim text ≠ ZoneFirewall.blockEnd →
        BlockLine.classify (Text.trim text) = .ok (.log option) → option ≠ sessionLogOption →
          Stops s text (.block id openedAt) (.unsupportedLogOption option)

/-- A line fails for one of the causes. -/
theorem stops_of_step_eq_error {text : String} {place : Place} {fault : ReadFault}
    (h : outcome (step resolver number place text) s = .error fault) :
    Stops s text place fault := by
  cases place with
  | topLevel =>
      rw [step_topLevel] at h
      split at h
      · rename_i hmalformed
        cases h
        exact .malformed hmalformed
      · cases h
      · rename_i hsome
        exact .directive hsome (fails_of_directive_eq_error h)
  | block id openedAt =>
      rw [step_block] at h
      split at h
      · cases h
      · rename_i hend
        split at h
        · cases h
        · rename_i hblank
          split at h
          · rename_i hunexpected
            cases h
            exact .unexpected hend hblank hunexpected
          · rename_i b hb
            rw [map_eq_error] at h
            rcases b with ⟨kind, name⟩ | option
            · cases h
            · simp only [blockChange] at h
              split at h
              · cases h
              · rename_i hoption
                cases h
                exact .unsupported hend hb hoption

/-- A line that succeeds has no cause to fail. -/
theorem LeadsTo.not_stops {text : String} {place place' : Place} {s' : Reading}
    {fault : ReadFault} (h : LeadsTo resolver number s text place place' s') :
    ¬ Stops s text place fault := by
  intro hstops
  cases h with
  | passedOver hnone =>
      cases hstops with
      | malformed hmalformed => rw [hnone] at hmalformed; cases hmalformed
      | directive hsome => rw [hnone] at hsome; cases hsome
  | directive hsome hdoes =>
      cases hstops with
      | malformed hmalformed => rw [hsome] at hmalformed; cases hmalformed
      | directive hsome' hfails =>
          rw [hsome] at hsome'
          cases hsome'
          exact hdoes.not_fails hfails
  | blockEnd hend =>
      cases hstops with
      | unexpected hnot => exact hnot hend
      | unsupported hnot => exact hnot hend
  | blank hblank =>
      cases hstops with
      | unexpected _ hnot => exact hnot hblank
      | unsupported _ hlog =>
          rw [hblank] at hlog
          cases hlog
  | blockLine _ hb hchange =>
      cases hstops with
      | unexpected _ _ hunexpected => rw [hb] at hunexpected; cases hunexpected
      | unsupported _ hlog hoption =>
          rw [hb] at hlog
          cases hlog
          simp only [blockChange, if_neg hoption] at hchange
          cases hchange

/-- A numeral that cannot be read is reported as such. -/
theorem exists_numeral_of_readNumber {text : String} {fault : ReadFault}
    (h : readNumber text = .error fault) : ∃ e, fault = .numeral e := by
  unfold readNumber at h
  rcases hread : readInteger text with e | n
  · rw [hread] at h
    cases h
    exact ⟨e, rfl⟩
  · rw [hread] at h
    cases h

/-- No line fails for its block not being closed. -/
theorem Stops.ne_blockNotClosed {text : String} {place : Place} {fault : ReadFault}
    (h : Stops s text place fault) (id : Int) : fault ≠ .blockNotClosed id := by
  rintro rfl
  cases h with
  | directive _ hfails =>
      cases hfails with
      | numeral _ hread =>
          obtain ⟨e, he⟩ := exists_numeral_of_readNumber hread
          cases he

end Reading

end ZoneFirewall
