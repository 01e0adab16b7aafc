import ZoneFirewall.Proofs.Attempts

/-!
# What lines do

A directive first finds out what it says, which may fail, and then changes the state, which may not.
So a line that fails leaves the state as it was.

* `Reading.addressOf`, `Reading.newPolicy`, `Reading.policyIn`, `Reading.blockChange`: what
  directives and the lines of a block say.
* `Reading.withDefinition`, `Reading.withAddress`: what they change.
* `Reading.isWhole_service` to `Reading.isWhole_blockLine`: handler by handler, that nothing is
  changed before all that may fail. `isWhole_directive`, `isWhole_step`: **a line that fails leaves
  nothing half-made.**
* `Reading.Does`, `Reading.LeadsTo`: what directives and lines do, one case for each form.
  `directive_eq_ok`, `step_eq_ok`: **they succeed exactly in doing so.**
* `Reading.linesFrom_cons`: a run line by line.

Later proofs take a line that succeeds apart by these relations and do not open `directive` and
`step`.
-/

namespace ZoneFirewall

open Attempt

namespace Reading

variable {s : Reading} {resolver : Option Resolver} {number : Nat}

/-! ## Services -/

/-- The state with a definition of a service. The first for a name replaces what the catalog had. -/
def withDefinition (s : Reading) (name : String) (definition : Definition) : Reading :=
  if name ∈ s.definedServices then
    { s.onServices (·.append name definition) with lastService := some name }
  else
    { s.onServices (·.define name [definition]) with
      lastService := some name, definedServices := name :: s.definedServices }

/-- The numerals of a definition are read before the catalog is changed. -/
theorem isWhole_service (name : String) (clause : ServiceClause) :
    IsWhole (service name clause) := by
  refine isWhole_bind (looks_lift _) fun definition => isWhole_bind looks_get fun s => ?_
  -- from here on there are changes only, two of them or three
  refine Succeeds.isWhole (.ite ?_ ?_)
  · exact (succeeds_modify _).bind fun _ => succeeds_modify _
  · exact (succeeds_modify _).bind fun _ => (succeeds_modify _).bind fun _ => succeeds_modify _

/-- A definition line gives its service a definition, or fails for one of its numerals. -/
theorem outcome_service (name : String) (clause : ServiceClause) :
    outcome (service name clause) s
      = (definitionOf clause).map fun d => ((), s.withDefinition name d) := by
  unfold service
  rw [outcome_lift_bind]
  rcases definitionOf clause with fault | d
  · rfl
  · show outcome (get >>= _) s = .ok ((), s.withDefinition name d)
    unfold withDefinition
    rw [outcome_get_bind]
    by_cases hdefined : name ∈ s.definedServices
    · simp only [if_pos hdefined]
      rfl
    · simp only [if_neg hdefined]
      rfl

/-- The service to add to is known, and the numerals are read, before the catalog is changed. -/
theorem isWhole_serviceContinue (name : String) (clause : ServiceClause) :
    IsWhole (serviceContinue name clause) := by
  refine isWhole_bind looks_get fun s => ?_
  cases s.lastService with
  | none => exact (looks_throw _).isWhole
  | some last => exact isWhole_bind (looks_lift _) fun _ => (succeeds_modify _).isWhole

/-- A continuation line adds to the service that was defined last, if there is one. -/
theorem outcome_serviceContinue (name : String) (clause : ServiceClause) :
    outcome (serviceContinue name clause) s
      = match s.lastService with
        | none => .error (.nothingToContinue name)
        | some last => (definitionOf clause).map fun d => ((), s.onServices (·.append last d)) := by
  unfold serviceContinue
  rw [outcome_get_bind]
  cases s.lastService with
  | none => rfl
  | some last =>
      simp only [outcome_lift_bind]
      rcases definitionOf clause with fault | d
      · rfl
      · rfl

/-! ## Addresses -/

/-- The address of an address line, or the problem of finding it. With a mask there has to be
one. -/
def addressOf (resolver : Option Resolver) (zone name host : String) :
    Option String → Except ReadFault (Except Problem Interface)
  | some mask =>
    match Interface.parseMasked host mask with
    | .error e => .error (.invalidAddress host mask e)
    | .ok i => .ok (.ok i)
  | none => .ok (lookup resolver zone name host)

/-- The state with an address, or with the problem of finding it at a line. -/
def withAddress (s : Reading) (line : Nat) (zone name description : String) :
    Except Problem Interface → Reading
  | .ok i => s.onObjects (·.add zone name i description)
  | .error problem => { s with configuration := s.configuration.report ⟨problem, line⟩ }

/-- The address is read before the book is changed. -/
theorem isWhole_address (resolver : Option Resolver) (line : Nat) (zone name host : String)
    (mask : Option String) (description : String) :
    IsWhole (address resolver line zone name host mask description) := by
  unfold address
  cases mask with
  | some mask =>
      dsimp only
      cases Interface.parseMasked host mask with
      | error e => exact (looks_throw _).isWhole
      | ok i => exact (succeeds_modify _).isWhole
  | none =>
      dsimp only
      cases lookup resolver zone name host with
      | error problem => exact (succeeds_modify _).isWhole
      | ok i => exact (succeeds_modify _).isWhole

/-- An address line gives its name an address, or reports the problem of finding it. -/
theorem outcome_address (resolver : Option Resolver) (line : Nat) (zone name host : String)
    (mask : Option String) (description : String) :
    outcome (address resolver line zone name host mask description) s
      = (addressOf resolver zone name host mask).map fun a =>
          ((), s.withAddress line zone name description a) := by
  unfold address addressOf
  cases mask with
  | some mask =>
      dsimp only
      cases Interface.parseMasked host mask with
      | error e => rfl
      | ok i => rfl
  | none =>
      dsimp only
      cases lookup resolver zone name host with
      | error problem => rfl
      | ok i => rfl

/-! ## Policies -/

/-- The policy that a line creates beside others. -/
def newPolicy (policies : List Policy) (h : PolicyHeader) : Except ReadFault Policy := do
  let id ← readNumber h.id
  if (policies.find? (·.id = id)).isSome then .error (.policyDefinedTwice id)
  else
    let natPort ← h.natPort.mapM readNumber
    if (policyOf h id natPort).isValid then return policyOf h id natPort
    else .error (.invalidPolicy (policyOf h id natPort))

/-- The number of one of some policies. -/
def policyIn (policies : List Policy) (text : String) : Except ReadFault Int := do
  let id ← readNumber text
  if (policies.find? (·.id = id)).isSome then return id else .error (.policyNotFound id)

/-- A policy is found by its number if there is one. -/
theorem find?_isSome_iff {policies : List Policy} {id : Int} :
    (policies.find? (·.id = id)).isSome ↔ id ∈ policies.map (·.id) := by
  simp [List.find?_isSome]

/-- The numerals are read, the number is not taken and the policy is valid, before it is added. -/
theorem isWhole_policyCreate (h : PolicyHeader) : IsWhole (policyCreate h) := by
  refine isWhole_bind (looks_lift _) fun id => isWhole_bind looks_get fun s => ?_
  refine .ite (looks_throw _).isWhole ?_
  -- the numeral of the port comes after the look-up, but still before the policy is added
  refine isWhole_bind (looks_lift _) fun natPort => ?_
  exact .ite (succeeds_modify _).isWhole (looks_throw _).isWhole

/-- The creation of a policy adds the new one. -/
theorem outcome_policyCreate (h : PolicyHeader) :
    outcome (policyCreate h) s
      = (newPolicy s.configuration.policies h).map fun p =>
          ((), { s with configuration := s.configuration.addPolicy p }) := by
  unfold policyCreate newPolicy
  rw [outcome_lift_bind]
  rcases readNumber h.id with fault | id
  · rfl
  · show outcome (get >>= _) s
      = Except.map _ (if (s.configuration.policies.find? (·.id = id)).isSome then _ else _)
    rw [outcome_get_bind, Configuration.policy?]
    by_cases htaken : (s.configuration.policies.find? (·.id = id)).isSome
    · rw [if_pos htaken, if_pos htaken]
      rfl
    · rw [if_neg htaken, if_neg htaken, outcome_lift_bind]
      rcases h.natPort.mapM readNumber with fault | natPort
      · rfl
      · show outcome (if _ then _ else _) s
          = Except.map _ (if (policyOf h id natPort).isValid then _ else _)
        by_cases hvalid : (policyOf h id natPort).isValid
        · rw [if_pos hvalid, if_pos hvalid]
          rfl
        · rw [if_neg hvalid, if_neg hvalid]
          rfl

/-- To look for a policy changes nothing. -/
theorem looks_knownPolicy (text : String) : Looks (knownPolicy text) := by
  refine (looks_lift _).bind fun id => looks_get.bind fun s => ?_
  split
  · exact looks_pure _
  · exact looks_throw _

/-- A number that is looked for is that of one of the policies. -/
theorem outcome_knownPolicy (text : String) :
    outcome (knownPolicy text) s = (policyIn s.configuration.policies text).map (·, s) := by
  unfold knownPolicy policyIn
  rw [outcome_lift_bind]
  rcases readNumber text with fault | id
  · rfl
  · show outcome (get >>= _) s
      = Except.map _ (if (s.configuration.policies.find? (·.id = id)).isSome then _ else _)
    rw [outcome_get_bind, Configuration.policy?]
    by_cases hknown : (s.configuration.policies.find? (·.id = id)).isSome
    · rw [if_pos hknown, if_pos hknown]
      rfl
    · rw [if_neg hknown, if_neg hknown]
      rfl

/-- A policy is known before it gets a flag. -/
theorem isWhole_policyFlag (text : String) (flag : PolicyFlag) (value : Option String) :
    IsWhole (policyFlag text flag value) :=
  isWhole_bind (looks_knownPolicy text) fun _ => (succeeds_modify _).isWhole

/-- A flag line changes a policy that is there. -/
theorem outcome_policyFlag (text : String) (flag : PolicyFlag) (value : Option String) :
    outcome (policyFlag text flag value) s
      = (policyIn s.configuration.policies text).map fun id =>
          ((), s.onPolicy id (flagChange flag value)) := by
  unfold policyFlag
  rw [outcome_bind, outcome_knownPolicy]
  rcases policyIn s.configuration.policies text with fault | id
  · rfl
  · rfl

/-- What a line of a block does to the block's policy. -/
def blockChange : BlockLine → Except ReadFault (Policy → Policy)
  | .member kind name => .ok (memberChange kind name)
  | .log option =>
    if option = sessionLogOption then .ok fun p => { p with logInit := true }
    else .error (.unsupportedLogOption option)

/-- The option of a line of a block is known before the policy is changed. -/
theorem isWhole_blockLine (id : Int) (b : BlockLine) : IsWhole (blockLine id b) := by
  cases b with
  | member kind name => exact (succeeds_modify _).isWhole
  | log option => exact .ite (succeeds_modify _).isWhole (looks_throw _).isWhole

/-- A line of a block changes the block's policy. -/
theorem outcome_blockLine (id : Int) (b : BlockLine) :
    outcome (blockLine id b) s
      = (blockChange b).map fun change => ((), s.onPolicy id change) := by
  cases b with
  | member kind name => rfl
  | log option =>
      unfold blockLine blockChange
      by_cases hoption : option = sessionLogOption
      · simp only [if_pos hoption]
        rfl
      · simp only [if_neg hoption]
        rfl

/-! ## Directives -/

/-- **A directive that fails leaves nothing half-made**, whichever it is. -/
theorem isWhole_directive (resolver : Option Resolver) (number : Nat) (d : Directive) :
    IsWhole (directive resolver number d) := by
  cases d with
  | service name clause => exact (isWhole_service name clause).bind fun _ => succeeds_pure _
  | serviceContinue name clause =>
      exact (isWhole_serviceContinue name clause).bind fun _ => succeeds_pure _
  | address zone name host mask description =>
      exact (isWhole_address resolver number zone name host mask _).bind fun _ => succeeds_pure _
  | policyCreate header => exact (isWhole_policyCreate header).bind fun _ => succeeds_pure _
  | policyBlock text =>
      exact (looks_knownPolicy text).isWhole.bind fun _ => succeeds_pure _
  | policyFlag text flag value =>
      exact (isWhole_policyFlag text flag value).bind fun _ => succeeds_pure _
  | serviceTimeout | addressGroupCreate => exact (succeeds_pure _).isWhole
  | addressGroupAdd | serviceGroupAdd | serviceGroupCreate =>
      exact ((succeeds_modify _).bind fun _ => succeeds_pure _).isWhole

/-- A definition line gives its service a definition. -/
theorem directive_service {name : String} {clause : ServiceClause} :
    outcome (directive resolver number (.service name clause)) s
      = (definitionOf clause).map fun d => (.topLevel, s.withDefinition name d) := by
  unfold directive
  rw [outcome_bind_pure, outcome_service]
  rcases definitionOf clause with fault | d
  · rfl
  · rfl

/-- A continuation line adds to the service that was defined last, if there is one. -/
theorem directive_serviceContinue {name : String} {clause : ServiceClause} :
    outcome (directive resolver number (.serviceContinue name clause)) s
      = match s.lastService with
        | none => .error (.nothingToContinue name)
        | some last =>
          (definitionOf clause).map fun d => (.topLevel, s.onServices (·.append last d)) := by
  unfold directive
  rw [outcome_bind_pure, outcome_serviceContinue]
  cases s.lastService with
  | none => rfl
  | some last =>
      rcases definitionOf clause with fault | d
      · rfl
      · rfl

/-- An address line gives its name an address, or reports the problem of finding it. -/
theorem directive_address {zone name host : String} {mask description : Option String} :
    outcome (directive resolver number (.address zone name host mask description)) s
      = (addressOf resolver zone name host mask).map fun a =>
          (.topLevel, s.withAddress number zone name (description.getD "") a) := by
  unfold directive
  rw [outcome_bind_pure, outcome_address]
  rcases addressOf resolver zone name host mask with fault | a
  · rfl
  · rfl

/-- The creation of a policy adds the new one. -/
theorem directive_policyCreate {h : PolicyHeader} :
    outcome (directive resolver number (.policyCreate h)) s
      = (newPolicy s.configuration.policies h).map fun p =>
          (.topLevel, { s with configuration := s.configuration.addPolicy p }) := by
  unfold directive
  rw [outcome_bind_pure, outcome_policyCreate]
  rcases newPolicy s.configuration.policies h with fault | p
  · rfl
  · rfl

/-- The opening of a block leads into the block of a policy that is there. -/
theorem directive_policyBlock {text : String} :
    outcome (directive resolver number (.policyBlock text)) s
      = (policyIn s.configuration.policies text).map fun id => (.block id number, s) := by
  unfold directive
  rw [outcome_bind, outcome_knownPolicy]
  rcases policyIn s.configuration.policies text with fault | id
  · rfl
  · rfl

/-- A flag line changes a policy that is there. -/
theorem directive_policyFlag {text : String} {flag : PolicyFlag} {value : Option String} :
    outcome (directive resolver number (.policyFlag text flag value)) s
      = (policyIn s.configuration.policies text).map fun id =>
          (.topLevel, s.onPolicy id (flagChange flag value)) := by
  unfold directive
  rw [outcome_bind_pure, outcome_policyFlag]
  rcases policyIn s.configuration.policies text with fault | id
  · rfl
  · rfl

/-! ## What success comes to -/

/-- What a directive of a line does, and where the next line stands. -/
inductive Does (resolver : Option Resolver) (number : Nat) (s : Reading) :
    Directive → Place → Reading → Prop where
  /-- A service gets a definition. -/
  | service {name : String} {clause : ServiceClause} {d : Definition} :
      definitionOf clause = .ok d →
        Does resolver number s (.service name clause) .topLevel (s.withDefinition name d)
  /-- The service that was defined last gets a further definition. -/
  | serviceContinue {name last : String} {clause : ServiceClause} {d : Definition} :
      s.lastService = some last → definitionOf clause = .ok d →
        Does resolver number s (.serviceContinue name clause) .topLevel
          (s.onServices (·.append last d))
  /-- Nothing changes. -/
  | serviceTimeout {name setting : String} :
      Does resolver number s (.serviceTimeout name setting) .topLevel s
  /-- A name gets an address, or the problem of finding it is reported. -/
  | address {zone name host : String} {mask description : Option String}
      {a : Except Problem Interface} :
      addressOf resolver zone name host mask = .ok a →
        Does resolver number s (.address zone name host mask description) .topLevel
          (s.withAddress number zone name (description.getD "") a)
  /-- A group gets a member. -/
  | addressGroupAdd {zone group member : String} :
      Does resolver number s (.addressGroupAdd zone group member) .topLevel
        (s.onObjects (·.addMember zone group member))
  /-- Nothing changes. -/
  | addressGroupCreate {zone group : String} {comment : Option String} :
      Does resolver number s (.addressGroupCreate zone group comment) .topLevel s
  /-- A group gets a member. -/
  | serviceGroupAdd {group member : String} :
      Does resolver number s (.serviceGroupAdd group member) .topLevel
        (s.onServices (·.addMember group member))
  /-- A group comes to be. -/
  | serviceGroupCreate {group : String} {comment : Option String} :
      Does resolver number s (.serviceGroupCreate group comment) .topLevel
        (s.onServices (·.createGroup group))
  /-- A policy comes to be. -/
  | policyCreate {h : PolicyHeader} {p : Policy} :
      newPolicy s.configuration.policies h = .ok p →
        Does resolver number s (.policyCreate h) .topLevel
          { s with configuration := s.configuration.addPolicy p }
  /-- The block of a policy is entered. -/
  | policyBlock {text : String} {id : Int} :
      policyIn s.configuration.policies text = .ok id →
        Does resolver number s (.policyBlock text) (.block id number) s
  /-- A policy gets a flag. -/
  | policyFlag {text : String} {flag : PolicyFlag} {value : Option String} {id : Int} :
      policyIn s.configuration.policies text = .ok id →
        Does resolver number s (.policyFlag text flag value) .topLevel
          (s.onPolicy id (flagChange flag value))

/-- **A directive succeeds exactly in doing what it does.** -/
theorem directive_eq_ok {d : Directive} {place : Place} {s' : Reading} :
    outcome (directive resolver number d) s = .ok (place, s')
      ↔ Does resolver number s d place s' := by
  constructor
  · intro h
    cases d with
    | service name clause =>
        simp only [directive_service, map_eq_ok, Prod.mk.injEq] at h
        obtain ⟨_, hd, rfl, rfl⟩ := h
        exact .service hd
    | serviceContinue name clause =>
        rw [directive_serviceContinue] at h
        split at h
        · cases h
        · rename_i hlast
          simp only [map_eq_ok, Prod.mk.injEq] at h
          obtain ⟨_, hd, rfl, rfl⟩ := h
          exact .serviceContinue hlast hd
    | serviceTimeout name setting => cases h; exact .serviceTimeout
    | address zone name host mask description =>
        simp only [directive_address, map_eq_ok, Prod.mk.injEq] at h
        obtain ⟨_, ha, rfl, rfl⟩ := h
        exact .address ha
    | addressGroupAdd zone group member => cases h; exact .addressGroupAdd
    | addressGroupCreate zone group comment => cases h; exact .addressGroupCreate
    | serviceGroupAdd group member => cases h; exact .serviceGroupAdd
    | serviceGroupCreate group comment => cases h; exact .serviceGroupCreate
    | policyCreate header =>
        simp only [directive_policyCreate, map_eq_ok, Prod.mk.injEq] at h
        obtain ⟨_, hp, rfl, rfl⟩ := h
        exact .policyCreate hp
    | policyBlock text =>
        simp only [directive_policyBlock, map_eq_ok, Prod.mk.injEq] at h
        obtain ⟨_, hid, rfl, rfl⟩ := h
        exact .policyBlock hid
    | policyFlag text flag value =>
        simp only [directive_policyFlag, map_eq_ok, Prod.mk.injEq] at h
        obtain ⟨_, hid, rfl, rfl⟩ := h
        exact .policyFlag hid
  · intro h
    cases h with
    | service hd => rw [directive_service, hd]; rfl
    | serviceContinue hlast hd => rw [directive_serviceContinue, hlast, hd]; rfl
    | address ha => rw [directive_address, ha]; rfl
    | policyCreate hp => rw [directive_policyCreate, hp]; rfl
    | policyBlock hid => rw [directive_policyBlock, hid]; rfl
    | policyFlag hid => rw [directive_policyFlag, hid]; rfl
    | serviceTimeout => rfl
    | addressGroupAdd => rfl
    | addressGroupCreate => rfl
    | serviceGroupAdd => rfl
    | serviceGroupCreate => rfl

/-- What a line does that stands at a place, and where the next one stands. -/
inductive LeadsTo (resolver : Option Resolver) (number : Nat) (s : Reading) (text : String) :
    Place → Place → Reading → Prop where
  /-- A line of no family is passed over. -/
  | passedOver :
      Directive.classify (Text.trim text) = .ok none →
        LeadsTo resolver number s text .topLevel .topLevel s
  /-- A directive does what it does. -/
  | directive {d : Directive} {place' : Place} {s' : Reading} :
      Directive.classify (Text.trim text) = .ok (some d) → Does resolver number s d place' s' →
        LeadsTo resolver number s text .topLevel place' s'
  /-- The block ends. -/
  | blockEnd {id : Int} {openedAt : Nat} :
      Text.trim text = blockEnd →
        LeadsTo resolver number s text (.block id openedAt) .topLevel s
  /-- An empty line of a block is passed over. -/
  | blank {id : Int} {openedAt : Nat} :
      Text.trim text = "" →
        LeadsTo resolver number s text (.block id openedAt) (.block id openedAt) s
  /-- A line of a block changes the block's policy. -/
  | blockLine {id : Int} {openedAt : Nat} {b : BlockLine} {change : Policy → Policy} :
      Text.trim text ≠ ZoneFirewall.blockEnd → BlockLine.classify (Text.trim text) = .ok b →
        blockChange b = .ok change →
          LeadsTo resolver number s text (.block id openedAt) (.block id openedAt)
            (s.onPolicy id change)

/-- **A line that fails leaves nothing half-made**, wherever it stands. -/
theorem isWhole_step (resolver : Option Resolver) (number : Nat) (place : Place) (text : String) :
    IsWhole (step resolver number place text) := by
  cases place with
  | topLevel =>
      refine .ite (succeeds_pure _).isWhole ?_
      rcases Directive.classify (Text.trim text) with fault | _ | d
      · exact (looks_throw _).isWhole
      · exact (succeeds_pure _).isWhole
      · exact isWhole_directive resolver number d
  | block id openedAt =>
      refine .ite (succeeds_pure _).isWhole (.ite (succeeds_pure _).isWhole ?_)
      rcases BlockLine.classify (Text.trim text) with fault | b
      · exact (looks_throw _).isWhole
      · exact (isWhole_blockLine id b).bind fun _ => succeeds_pure _

/-- At the top level a line is what its wording makes it; an empty one is of no family. -/
theorem step_topLevel {text : String} :
    outcome (step resolver number .topLevel text) s
      = match Directive.classify (Text.trim text) with
        | .error fault => .error (.directive fault)
        | .ok none => .ok (.topLevel, s)
        | .ok (some d) => outcome (directive resolver number d) s := by
  have hempty : Directive.classify "" = .ok none := rfl
  by_cases h : Text.trim text = ""
  · simp only [step, h, if_true, hempty]
    rfl
  · rcases hclass : Directive.classify (Text.trim text) with fault | _ | d
    · simp only [step, if_neg h, hclass]
      rfl
    · simp only [step, if_neg h, hclass]
      rfl
    · simp only [step, if_neg h, hclass]

/-- In a block a line ends it, is empty or changes the block's policy. -/
theorem step_block {text : String} {id : Int} {openedAt : Nat} :
    outcome (step resolver number (.block id openedAt) text) s
      = if Text.trim text = blockEnd then .ok (.topLevel, s)
        else if Text.trim text = "" then .ok (.block id openedAt, s)
        else
          match BlockLine.classify (Text.trim text) with
          | .error fault => .error (.directive fault)
          | .ok b =>
            (blockChange b).map fun change => (.block id openedAt, s.onPolicy id change) := by
  unfold step
  dsimp only
  split
  · rfl
  · split
    · rfl
    · rcases BlockLine.classify (Text.trim text) with fault | b
      · rfl
      · dsimp only
        rw [outcome_bind_pure, outcome_blockLine]
        rcases blockChange b with fault | change
        · rfl
        · rfl

/-- **A line succeeds exactly in leading to where it leads.** -/
theorem step_eq_ok {text : String} {place place' : Place} {s' : Reading} :
    outcome (step resolver number place text) s = .ok (place', s')
      ↔ LeadsTo resolver number s text place place' s' := by
  constructor
  · intro h
    cases place with
    | topLevel =>
        rw [step_topLevel] at h
        split at h
        · cases h
        · rename_i hnone
          cases h
          exact .passedOver hnone
        · rename_i hsome
          exact .directive hsome (directive_eq_ok.1 h)
    | block id openedAt =>
        rw [step_block] at h
        split at h
        · rename_i hend
          cases h
          exact .blockEnd hend
        · rename_i hnot
          split at h
          · rename_i hblank
            cases h
            exact .blank hblank
          · split at h
            · cases h
            · rename_i hb
              simp only [map_eq_ok, Prod.mk.injEq] at h
              obtain ⟨change, hchange, rfl, rfl⟩ := h
              exact .blockLine hnot hb hchange
  · intro h
    cases h with
    | passedOver hnone => rw [step_topLevel, hnone]
    | directive hsome hdoes =>
        rw [step_topLevel, hsome]
        exact directive_eq_ok.2 hdoes
    | blockEnd hend => rw [step_block, if_pos hend]
    | blank hblank => rw [step_block, if_neg (by rw [hblank]; decide), if_pos hblank]
    | blockLine hnot hb hchange =>
        have hblank : Text.trim text ≠ "" := by
          intro hblank
          rw [hblank] at hb
          cases hb
        rw [step_block, if_neg hnot, if_neg hblank, hb]
        simp only [hchange]
        rfl

/-! ## Runs -/

/-- A run goes on after a line that succeeds; a line that fails ends it with the state before it. -/
theorem linesFrom_cons {place : Place} {text : String} {texts : List String} :
    linesFrom resolver s place number (text :: texts)
      = match outcome (step resolver number place text) s with
        | .error fault => (s, some ⟨number, fault⟩)
        | .ok (next, left) => linesFrom resolver left next (number + 1) texts := by
  rw [linesFrom, (isWhole_step resolver number place text).runOn_eq]
  rcases outcome (step resolver number place text) s with fault | ⟨next, left⟩
  · rfl
  · rfl

/-- A run goes on after a directive with what the directive leaves. -/
theorem linesFrom_of_does {d : Directive} {text : String} {texts : List String} {place : Place}
    {s' : Reading} (hline : Directive.classify (Text.trim text) = .ok (some d))
    (hdoes : Does resolver number s d place s') :
    linesFrom resolver s .topLevel number (text :: texts)
      = linesFrom resolver s' place (number + 1) texts := by
  rw [linesFrom_cons, step_topLevel, hline]
  simp only [directive_eq_ok.2 hdoes]

end Reading

end ZoneFirewall
