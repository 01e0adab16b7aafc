import Mathlib.Data.List.DropRight
import ZoneFirewall.Proofs.Instructions

/-!
# What addresses end up as

An address line that is effective gives a name of a zone an address, and takes away all that the
name stood for; a line for a group adds a member to what there is. So an object is what the last
effective line for it makes, with the members that came after. A line whose host is not found is
reported and does nothing else.

* `hostAddress?`, `hostProblem`: the address of a host, and the problem of one that has none.
  `lookup_eq`: looking it up comes to one of them.
* `Directive.IsEffective`, `Directive.given?`, `Directive.member?`: what a directive means for a
  name of a zone. `lastGiven`, `membersSince`: what directives mean for it.
* `AddressObject.Shows`, `Does.shows`: **an object shows the last address and the members since, and
  goes on to do so when a directive does what it does.**
* `Instruction.problem?`: the problem of a line that is not effective.
* `objects_ofLines`: **what accepted lines make of each name, and what they report.**
-/

namespace ZoneFirewall

open Text

/-! ## Hosts -/

/-- The answer for a host: its address, or the reason why there is none. -/
def hostAnswer (resolve : Resolver) (host : String) : Except String Interface :=
  (resolve host).bind fun address => (Interface.parseHost address).mapError (·.message)

/-- The address of a host, if it has one. -/
def hostAddress? (resolver : Option Resolver) (host : String) : Option Interface :=
  resolver.bind fun resolve => (hostAnswer resolve host).toOption

/-- The problem of a host that has no address. One that has an address is given no reason. -/
def hostProblem (resolver : Option Resolver) (zone name host : String) : Problem :=
  match resolver with
  | none => .lookupDisabled zone name host
  | some resolve =>
    match hostAnswer resolve host with
    | .error reason => .lookupFailed zone name host reason
    | .ok _ => .lookupFailed zone name host ""

variable {resolver : Option Resolver} {zone name host : String}

/-- Looking up a host comes to its address or to the problem of it. -/
theorem lookup_eq : Reading.lookup resolver zone name host
    = match hostAddress? resolver host with
      | some i => .ok i
      | none => .error (hostProblem resolver zone name host) := by
  rcases resolver with _ | resolve
  · rfl
  · simp only [Reading.lookup, hostAddress?, hostProblem, hostAnswer, Option.bind_some]
    rcases resolve host with reason | address
    · rfl
    · simp only [Except.bind]
      rcases Interface.parseHost address with e | i
      · rfl
      · rfl

/-- The address that a host and perhaps a mask come to. -/
def givenAddress? (resolver : Option Resolver) (host : String) : Option String → Option Interface
  | some mask => (Interface.parseMasked host mask).toOption
  | none => hostAddress? resolver host

/-! ## What directives mean for a name -/

/-- A directive is an address line for a name of a zone that has a mask or a host with an
address. -/
def Directive.IsEffective (resolver : Option Resolver) (zone name : String) : Directive → Prop
  | .address z n host mask _ =>
    (z, n) = (zone, name) ∧ (mask.isSome ∨ (hostAddress? resolver host).isSome)
  | _ => False

/-- The address and the description that a directive gives to a name of a zone. -/
def Directive.given? (resolver : Option Resolver) (zone name : String) :
    Directive → Option (Interface × String)
  | .address z n host mask description =>
    if (z, n) = (zone, name) then
      (givenAddress? resolver host mask).map fun i => (i, description.getD "")
    else none
  | _ => none

/-- The member that a directive adds to a group of a zone. -/
def Directive.member? (zone name : String) : Directive → Option String
  | .addressGroupAdd z n member => if (z, n) = (zone, name) then some member else none
  | _ => none

/-- What is given last to a name of a zone. -/
def lastGiven (resolver : Option Resolver) (zone name : String) (ds : List Directive) :
    Option (Interface × String) :=
  (ds.filterMap (·.given? resolver zone name)).getLast?

/-- The members that are added to a group of a zone after the last directive that gives something
to the name. -/
def membersSince (resolver : Option Resolver) (zone name : String) (ds : List Directive) :
    List String :=
  (ds.rtakeWhile fun d => (d.given? resolver zone name).isNone).filterMap (·.member? zone name)

variable {ds : List Directive} {d : Directive}

/-- A further directive gives what it gives, or leaves what was given last. -/
theorem lastGiven_append_singleton (ds : List Directive) (d : Directive) :
    lastGiven resolver zone name (ds ++ [d])
      = (d.given? resolver zone name).or (lastGiven resolver zone name ds) := by
  rw [lastGiven, filterMap_append_singleton, List.getLast?_append]
  rcases d.given? resolver zone name with _ | g
  · rfl
  · rfl

/-- Nothing has been given if no directive gives anything. -/
theorem lastGiven_eq_none_iff :
    lastGiven resolver zone name ds = none ↔ ∀ d ∈ ds, d.given? resolver zone name = none := by
  rw [lastGiven, List.getLast?_eq_none_iff, List.filterMap_eq_nil_iff]

/-- A directive that gives something makes all members go. -/
theorem membersSince_of_given {g : Interface × String}
    (h : d.given? resolver zone name = some g) :
    membersSince resolver zone name (ds ++ [d]) = [] := by
  rw [membersSince, List.rtakeWhile_concat_neg]
  · rfl
  · simp [h]

/-- A directive that gives nothing may add a member. -/
theorem membersSince_of_not_given (h : d.given? resolver zone name = none) :
    membersSince resolver zone name (ds ++ [d])
      = membersSince resolver zone name ds ++ (d.member? zone name).toList := by
  rw [membersSince, List.rtakeWhile_concat_pos, filterMap_append_singleton]
  · rfl
  · simp [h]

/-- Where nothing is given, the members are all that are added. -/
theorem membersSince_of_lastGiven_eq_none (h : lastGiven resolver zone name ds = none) :
    membersSince resolver zone name ds = ds.filterMap (·.member? zone name) := by
  rw [membersSince, List.rtakeWhile_eq_self_iff.2]
  intro d hd
  simp [lastGiven_eq_none_iff.1 h d hd]

/-! ## Objects -/

/-- An object is what an address and members make, if there are any. -/
structure AddressObject.Shows (given : Option (Interface × String)) (members : List String)
    (o : Option AddressObject) : Prop where
  /-- There is no object for nothing. -/
  absent : o = none → given = none ∧ members = []
  /-- An object has the address, its description and the members. -/
  present : ∀ x, o = some x → x.address = given.map Prod.fst ∧
    x.description = (given.map Prod.snd).getD "" ∧ x.members = members

variable {given : Option (Interface × String)} {members : List String} {o : Option AddressObject}

/-- A plain address shows what was given. -/
theorem AddressObject.shows_plain (i : Interface) (description : String) :
    Shows (some (i, description)) [] (some (.plain i description)) := by
  refine ⟨nofun, ?_⟩
  intro x hx
  cases hx
  exact ⟨rfl, rfl, rfl⟩

/-- One more member is one more that an object shows. -/
theorem AddressObject.shows_addMember (member : String) :
    Shows given members o → Shows given (members ++ [member])
      (some (match o with
        | some x => x.withMember member
        | none => .groupOf member)) := by
  intro h
  refine ⟨nofun, ?_⟩
  intro x hx
  rcases o with _ | y
  · obtain ⟨rfl, rfl⟩ := h.absent rfl
    cases hx
    exact ⟨rfl, rfl, rfl⟩
  · obtain ⟨haddress, hdescription, hmembers⟩ := h.present y rfl
    cases hx
    refine ⟨haddress, hdescription, ?_⟩
    rw [← hmembers]
    rfl

/-- An object is absent exactly if nothing makes it. -/
theorem AddressObject.Shows.eq_none_iff (h : Shows given members o) :
    o = none ↔ given = none ∧ members = [] := by
  constructor
  · exact h.absent
  · rintro ⟨hgiven, hmembers⟩
    rcases o with _ | x
    · rfl
    · obtain ⟨haddress, -, hnames⟩ := h.present x rfl
      rw [hgiven] at haddress
      rw [hmembers] at hnames
      rcases x.address_or_members with hx | hx
      · rw [haddress] at hx
        cases hx
      · exact absurd hnames hx

namespace Reading

variable {number : Nat} {s s' : Reading} {place : Place}

/-- An address line says what it gives, or else the problem of its host. -/
theorem addressOf_eq_ok {mask : Option String} {a : Except Problem Interface}
    (h : addressOf resolver zone name host mask = .ok a) :
    (∃ i, givenAddress? resolver host mask = some i ∧ a = .ok i) ∨
      (mask = none ∧ hostAddress? resolver host = none ∧
        a = .error (hostProblem resolver zone name host)) := by
  rcases mask with _ | mask
  · rw [addressOf, lookup_eq, Except.ok.injEq] at h
    rcases haddress : hostAddress? resolver host with _ | i
    · rw [haddress] at h
      exact .inr ⟨rfl, rfl, h.symm⟩
    · rw [haddress] at h
      exact .inl ⟨i, haddress, h.symm⟩
  · rw [addressOf] at h
    rcases hparse : Interface.parseMasked host mask with e | i
    · rw [hparse] at h
      cases h
    · rw [hparse] at h
      cases h
      refine .inl ⟨i, ?_, rfl⟩
      rw [givenAddress?, hparse]
      rfl

/-- The object of a name is what directives make of it. -/
def Shows (resolver : Option Resolver) (s : Reading) (ds : List Directive) (zone name : String) :
    Prop :=
  AddressObject.Shows (lastGiven resolver zone name ds) (membersSince resolver zone name ds)
    (s.configuration.objects.get? zone name)

/-- A directive that means nothing for a name leaves its object as it is. -/
theorem Shows.of_nothing (h : Shows resolver s ds zone name)
    (hobject : s'.configuration.objects.get? zone name = s.configuration.objects.get? zone name)
    (hgiven : d.given? resolver zone name = none) (hmember : d.member? zone name = none) :
    Shows resolver s' (ds ++ [d]) zone name := by
  rw [Shows, lastGiven_append_singleton, hgiven, Option.none_or, membersSince_of_not_given hgiven,
    hmember, Option.toList_none, List.append_nil, hobject]
  exact h

/-- **An object goes on to show what directives make of it when one more does what it does.** -/
theorem Does.shows (h : Does resolver number s d place s') (hs : Shows resolver s ds zone name) :
    Shows resolver s' (ds ++ [d]) zone name := by
  cases h with
  | @address z n host mask description a ha =>
      rcases addressOf_eq_ok ha with ⟨i, hi, rfl⟩ | ⟨rfl, hnone, rfl⟩
      · have hgiven : Directive.given? resolver zone name (.address z n host mask description)
            = if (z, n) = (zone, name) then some (i, description.getD "") else none := by
          rw [Directive.given?, hi]
          rfl
        by_cases hsame : (z, n) = (zone, name)
        · rw [if_pos hsame] at hgiven
          rw [Shows, lastGiven_append_singleton, hgiven, Option.some_or,
            membersSince_of_given hgiven]
          simp only [withAddress, onObjects, AddressBook.get?_add, if_pos hsame]
          exact AddressObject.shows_plain i _
        · rw [if_neg hsame] at hgiven
          refine hs.of_nothing ?_ hgiven rfl
          simp only [withAddress, onObjects, AddressBook.get?_add, if_neg hsame]
      · refine hs.of_nothing rfl ?_ rfl
        simp [Directive.given?, givenAddress?, hnone]
  | @addressGroupAdd z group member =>
      by_cases hsame : (z, group) = (zone, name)
      · have hgiven : Directive.given? resolver zone name (.addressGroupAdd z group member)
            = none := rfl
        cases hsame
        rw [Shows, lastGiven_append_singleton, hgiven, Option.none_or,
          membersSince_of_not_given hgiven, Directive.member?, if_pos rfl]
        simp only [onObjects, AddressBook.get?_addMember, if_true]
        exact AddressObject.shows_addMember member hs
      · refine hs.of_nothing ?_ rfl (if_neg hsame)
        simp only [onObjects, AddressBook.get?_addMember, if_neg hsame]
  | @service name clause definition =>
      refine hs.of_nothing ?_ rfl rfl
      unfold withDefinition
      split
      · rfl
      · rfl
  | _ => exact hs.of_nothing rfl rfl rfl

end Reading

/-! ## Problems -/

/-- The problem of a line whose host has no address. -/
def Instruction.problem? (resolver : Option Resolver) : Instruction → Option Problem
  | .directive (.address zone name host none _) =>
    if hostAddress? resolver host = none then some (hostProblem resolver zone name host) else none
  | _ => none

/-- What lines report: the problems of those whose hosts have no addresses, in order. -/
def problemsOf (resolver : Option Resolver) (told : List (Nat × Instruction)) : List Diagnostic :=
  told.filterMap fun e => (e.2.problem? resolver).map fun problem => ⟨problem, e.1⟩

namespace Reading

variable {number : Nat} {s s' : Reading} {place : Place} {i : Instruction}

/-- An address line has a problem exactly if it does not say an address. -/
theorem problem?_of_addressOf {mask description : Option String} {a : Except Problem Interface}
    (h : addressOf resolver zone name host mask = .ok a) :
    Instruction.problem? resolver (.directive (.address zone name host mask description))
      = match a with
        | .ok _ => none
        | .error problem => some problem := by
  rcases addressOf_eq_ok h with ⟨i, hi, rfl⟩ | ⟨rfl, hnone, rfl⟩
  · rcases mask with _ | mask
    · rw [givenAddress?] at hi
      simp [Instruction.problem?, hi]
    · rfl
  · simp [Instruction.problem?, hnone]

/-- A line reports its problem, if it has one, and nothing else. -/
theorem Follows.diagnostics_eq (h : Follows resolver number s i s') :
    s'.configuration.diagnostics
      = s.configuration.diagnostics
        ++ ((i.problem? resolver).map fun problem => ⟨problem, number⟩).toList := by
  cases h with
  | @directive d place _ hwritten hdoes =>
      cases hdoes with
      | @address z n host mask description a ha =>
          rw [problem?_of_addressOf ha]
          rcases a with problem | i
          · rfl
          · exact (List.append_nil _).symm
      | @service name clause definition =>
          unfold withDefinition
          split
          · exact (List.append_nil _).symm
          · exact (List.append_nil _).symm
      | _ => exact (List.append_nil _).symm
  | inBlock => exact (List.append_nil _).symm

/-- A directive with a problem reports it and does nothing else. -/
theorem Does.of_problem {d : Directive} {problem : Problem}
    (h : Does resolver number s d place s')
    (hproblem : Instruction.problem? resolver (.directive d) = some problem) :
    place = .topLevel ∧
      s' = { s with configuration := s.configuration.report ⟨problem, number⟩ } := by
  cases h with
  | @address z n host mask description a ha =>
      rw [problem?_of_addressOf ha] at hproblem
      rcases a with problem' | i
      · cases hproblem
        exact ⟨rfl, rfl⟩
      · cases hproblem
  | _ => cases hproblem

end Reading

/-! ## Accepted lines -/

variable {services : Catalog} {texts : List String} {c : Configuration}

/-- In accepted lines an address line gives an address exactly if it is effective. -/
theorem isEffective_iff_of_ofLines (h : Configuration.ofLines services resolver texts = .ok c)
    (zone name : String) : ∀ d ∈ directivesOf texts, d.IsEffective resolver zone name ↔
      (d.given? resolver zone name).isSome := by
  obtain ⟨-, -, hmasks⟩ := ofLines_directive_induction
    (P := fun ds _ => ∀ d ∈ ds, d.IsEffective resolver zone name ↔
      (d.given? resolver zone name).isSome)
    (by simp)
    (by
      intro ds number d s₁ place s₂ hds hwritten hdoes d' hd'
      rcases List.mem_append.1 hd' with hd' | hd'
      · exact hds d' hd'
      · obtain rfl := List.mem_singleton.1 hd'
        cases hdoes with
        | @address z n host mask description a ha =>
            rcases Reading.addressOf_eq_ok ha with ⟨i, hi, rfl⟩ | ⟨rfl, hnone, rfl⟩
            · have haddress : mask.isSome ∨ (hostAddress? resolver host).isSome := by
                rcases mask with _ | mask
                · rw [givenAddress?] at hi
                  exact .inr (by rw [hi]; rfl)
                · exact .inl rfl
              by_cases hsame : (z, n) = (zone, name)
              · simp only [Directive.IsEffective, Directive.given?, hi, if_pos hsame]
                exact iff_of_true ⟨hsame, haddress⟩ rfl
              · simp only [Directive.IsEffective, Directive.given?, if_neg hsame]
                exact iff_of_false (fun heffective => hsame heffective.1) Bool.false_ne_true
            · simp [Directive.IsEffective, Directive.given?, givenAddress?, hnone]
        | _ => simp [Directive.IsEffective, Directive.given?])
    (fun _ _ _ _ hds => hds) h
  exact hmasks

/-- **In accepted lines the object of a name shows what directives make of it.** -/
theorem shows_of_ofLines (h : Configuration.ofLines services resolver texts = .ok c)
    (zone name : String) :
    AddressObject.Shows (lastGiven resolver zone name (directivesOf texts))
      (membersSince resolver zone name (directivesOf texts)) (c.objects.get? zone name) := by
  obtain ⟨s, rfl, hshows⟩ := ofLines_directive_induction
    (P := fun ds s => s.Shows resolver ds zone name)
    ⟨fun _ => ⟨rfl, rfl⟩, nofun⟩
    (fun _ _ _ _ _ _ hs _ hdoes => hdoes.shows hs)
    (fun _ _ _ _ hs => hs) h
  exact hshows

/-- **Accepted lines report the problems of their hosts**, with their numbers. -/
theorem diagnostics_of_ofLines (h : Configuration.ofLines services resolver texts = .ok c) :
    c.diagnostics = problemsOf resolver (numberedInstructions texts) := by
  obtain ⟨s, rfl, hreports⟩ := ofLines_induction
    (P := fun told s => s.configuration.diagnostics = problemsOf resolver told)
    rfl
    (by
      intro told number i s₁ s₂ hs hfollows
      rw [problemsOf, filterMap_append_singleton, hfollows.diagnostics_eq, hs]
      rfl) h
  exact hreports

/-- A line that has a problem reports it and does nothing else. -/
theorem ofLines_before_problem {before after : List String} {text : String} {i : Instruction}
    {problem : Problem}
    (h : Configuration.ofLines services resolver (before ++ text :: after) = .ok c)
    (htells : instructionOf? text (openBlock before) = some i)
    (hproblem : i.problem? resolver = some problem) :
    ∃ c₁, Configuration.ofLines services resolver before = .ok c₁ ∧
      Configuration.ofLines services resolver (before ++ [text])
        = .ok (c₁.report ⟨problem, before.length + 1⟩) := by
  obtain ⟨s, hwalk, -⟩ := ofLines_eq_ok_iff.1 h
  rw [← List.singleton_append, ← List.append_assoc, Reading.walk_append] at hwalk
  obtain ⟨⟨place, t⟩, hline, -⟩ := Option.bind_eq_some_iff.1 hwalk
  obtain ⟨place₁, s₁, hbefore, hleads⟩ := Reading.walk_append_singleton_eq_some.1 hline
  have hstands : place₁.Stands (openBlock before) := Reading.stands_of_walk hbefore .topLevel
  rcases hopen : openBlock before with _ | b
  · rw [hopen] at hstands
    rw [hopen, instructionOf?, Option.map_eq_some_iff] at htells
    cases hstands
    obtain ⟨d, hd, rfl⟩ := htells
    have hclass := directiveOf?_eq_some.1 hd
    cases hleads with
    | passedOver hnone =>
        rw [hnone] at hclass
        cases hclass
    | directive hsome hdoes =>
        rw [hsome] at hclass
        cases hclass
        obtain ⟨rfl, rfl⟩ := hdoes.of_problem hproblem
        refine ⟨_, ofLines_eq_ok_iff.2 ⟨s₁, hbefore, rfl⟩, ofLines_eq_ok_iff.2 ⟨_, hline, ?_⟩⟩
        rw [Nat.add_comm]
  · rw [hopen, instructionOf?, Option.map_eq_some_iff] at htells
    obtain ⟨l, -, rfl⟩ := htells
    cases hproblem

/-- **What accepted lines make of addresses.** The object of a name is absent exactly if no address
line for it is effective and no line adds to it as a group. Otherwise it has the address and the
description of the last effective line, if there is one, and the members that are added after it.
The problems of the lines that are not effective are reported, in order, and nothing else is; each
of these lines changes nothing but that. -/
theorem objects_ofLines (h : Configuration.ofLines services resolver texts = .ok c) :
    (∀ zone name,
      (∀ d ∈ directivesOf texts, d.IsEffective resolver zone name ↔
        (d.given? resolver zone name).isSome) ∧
      (c.objects.get? zone name = none ↔ ∀ d ∈ directivesOf texts,
        ¬ d.IsEffective resolver zone name ∧ d.member? zone name = none) ∧
      ∀ o, c.objects.get? zone name = some o →
        o.address = (lastGiven resolver zone name (directivesOf texts)).map Prod.fst ∧
        o.description = ((lastGiven resolver zone name (directivesOf texts)).map Prod.snd).getD "" ∧
        o.members = membersSince resolver zone name (directivesOf texts)) ∧
    c.diagnostics = problemsOf resolver (numberedInstructions texts) ∧
    ∀ before text after i problem, texts = before ++ text :: after →
      instructionOf? text (openBlock before) = some i → i.problem? resolver = some problem →
        ∃ c₁, Configuration.ofLines services resolver before = .ok c₁ ∧
          Configuration.ofLines services resolver (before ++ [text])
            = .ok (c₁.report ⟨problem, before.length + 1⟩) := by
  refine ⟨?_, diagnostics_of_ofLines h, ?_⟩
  · intro zone name
    have heffective := isEffective_iff_of_ofLines h zone name
    have hshows := shows_of_ofLines h zone name
    refine ⟨heffective, ?_, hshows.present⟩
    rw [hshows.eq_none_iff]
    constructor
    · rintro ⟨hlast, hmembers⟩ d hd
      rw [membersSince_of_lastGiven_eq_none hlast, List.filterMap_eq_nil_iff] at hmembers
      rw [heffective d hd, lastGiven_eq_none_iff.1 hlast d hd]
      exact ⟨Bool.false_ne_true, hmembers d hd⟩
    · intro hnone
      have hlast : lastGiven resolver zone name (directivesOf texts) = none := by
        refine lastGiven_eq_none_iff.2 fun d hd => ?_
        rw [← Option.not_isSome_iff_eq_none, ← heffective d hd]
        exact (hnone d hd).1
      refine ⟨hlast, ?_⟩
      rw [membersSince_of_lastGiven_eq_none hlast, List.filterMap_eq_nil_iff]
      exact fun d hd => (hnone d hd).2
  · rintro before text after i problem rfl htells hproblem
    exact ofLines_before_problem h htells hproblem

/-- A host that is not found leaves the address, the description and the members that there are, and
the lines that create groups make no object. -/
theorem objects_of_failed_lookup :
    ∃ c, Configuration.ofLines .empty
        (some fun host => if host = "h" then .ok "10.0.0.5" else .error "unknown")
        ["set address \"z\" \"a\" 10.0.0.1 255.255.255.0 \"first\"",
          "set group address \"z\" \"a\" add \"m\"", "set group address \"z\" \"g\" comment x",
          "set address \"z\" \"a\" h \"second\"", "set group address \"z\" \"a\" add \"n\"",
          "set address \"z\" \"a\" k", "set group address \"z\" \"a\" add \"n\"",
          "set address \"z\" \"b\" k"] = .ok c ∧
      (∃ o, c.objects.get? "z" "a" = some o ∧ o.address.map Interface.text = some "10.0.0.5/32" ∧
        o.description = "second" ∧ o.members = ["n", "n"]) ∧
      c.objects.get? "z" "g" = none ∧
      c.diagnostics
        = [⟨.lookupFailed "z" "a" "k" "unknown", 6⟩, ⟨.lookupFailed "z" "b" "k" "unknown", 8⟩] := by
  generalize htexts :
    ["set address \"z\" \"a\" 10.0.0.1 255.255.255.0 \"first\"",
      "set group address \"z\" \"a\" add \"m\"", "set group address \"z\" \"g\" comment x",
      "set address \"z\" \"a\" h \"second\"", "set group address \"z\" \"a\" add \"n\"",
      "set address \"z\" \"a\" k", "set group address \"z\" \"a\" add \"n\"",
      "set address \"z\" \"b\" k"] = texts
  have hdirectives : directivesOf texts
      = [.address "z" "a" "10.0.0.1" (some "255.255.255.0") (some "first"),
          .addressGroupAdd "z" "a" "m", .addressGroupCreate "z" "g" (some " comment x"),
          .address "z" "a" "h" none (some "second"), .addressGroupAdd "z" "a" "n",
          .address "z" "a" "k" none none, .addressGroupAdd "z" "a" "n",
          .address "z" "b" "k" none none] := by
    rw [← htexts]
    decide +kernel
  generalize hresolver :
    (fun host => if host = "h" then .ok "10.0.0.5" else .error "unknown" : Resolver) = resolve
  have hok : (Configuration.ofLines .empty (some resolve) texts).isOk := by
    rw [← htexts, ← hresolver]
    decide +kernel
  rcases hrun : Configuration.ofLines .empty (some resolve) texts with e | c
  · rw [hrun] at hok
    cases hok
  · obtain ⟨hobjects, hreports, -⟩ := objects_ofLines hrun
    rw [hdirectives] at hobjects
    refine ⟨c, rfl, ?_, ?_, ?_⟩
    · obtain ⟨-, habsent, hpresent⟩ := hobjects "z" "a"
      rcases hget : c.objects.get? "z" "a" with _ | o
      · have hmember := (habsent.1 hget (.addressGroupAdd "z" "a" "n") (by decide +kernel)).2
        cases hmember
      · obtain ⟨haddress, hdescription, hmembers⟩ := hpresent o hget
        subst hresolver
        refine ⟨o, rfl, ?_, ?_, ?_⟩
        · rw [haddress]
          decide +kernel
        · rw [hdescription]
          decide +kernel
        · rw [hmembers]
          decide +kernel
    · refine (hobjects "z" "g").2.1.2 ?_
      simp [Directive.IsEffective, Directive.member?]
    · rw [hreports, ← htexts, ← hresolver]
      decide +kernel

end ZoneFirewall
