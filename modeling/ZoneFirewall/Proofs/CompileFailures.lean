import ZoneFirewall.Proofs.Compilation

/-!
# Why policies do not compile

Compiling goes through the references of all active policies first, and only then through their
services. Either may fail at a group that contains itself, and a service also at a name that is in
no catalog. Which of these failures is told is settled by what stands first.

* `Configuration.LeadsIntoCycle`, `Configuration.Expands`: what keeps a reference from resolving,
  and what lets a service expand, in terms of groups and members alone.
* `Configuration.activeServices`: the services of the active policies, policy by policy.
* `serviceError`: the error that a policy reports for one of its services.
* `compile_fails_first`: **policies compile unless a reference of an active one leads into a cycle
  or a service of one does not expand.** The error is that of the first such reference, and only
  without one that of the first such service.
-/

namespace ZoneFirewall

/-- The error that a policy reports for a service that comes to no definitions. -/
def serviceError (policy : Int) : Catalog.Failure → CompileError
  | .leaf name => .unknownService policy name
  | .cycle chain name => .cyclicServices chain name

namespace Configuration

variable {c : Configuration} {policies : List Policy} {p : Policy} {e : CompileError}

/-! ## References -/

/-- A reference leads into a cycle: in its zone it reaches a group that reaches itself. -/
def LeadsIntoCycle (c : Configuration) (r : Reference) : Prop :=
  ∃ g, Relation.ReflTransGen (c.objects.HasMember r.zone) r.name g ∧
    Relation.TransGen (c.objects.HasMember r.zone) g g

/-- A reference fails only on a cycle of groups. -/
theorem resolve_eq_error_iff {r : Reference} :
    c.resolve r = .error e ↔
      ∃ cycle, c.objects.resolve r.zone r.name = .error cycle ∧
        e = .cyclicAddresses r.zone cycle := by
  rw [resolve]
  rcases c.objects.resolve r.zone r.name with cycle | items
  · simp [Except.mapError, eq_comm]
  · simp [Except.mapError]

/-- A reference does not resolve exactly if it leads into a cycle. -/
theorem exists_resolve_eq_error_iff {r : Reference} :
    (∃ e, c.resolve r = .error e) ↔ c.LeadsIntoCycle r := by
  constructor
  · rintro ⟨e, he⟩
    obtain ⟨cycle, hcycle, -⟩ := resolve_eq_error_iff.1 he
    exact AddressBook.reaches_cycle_of_resolve hcycle
  · rintro ⟨g, hreach, hloop⟩
    rcases hr : c.objects.resolve r.zone r.name with cycle | items
    · exact ⟨_, resolve_eq_error_iff.2 ⟨cycle, hr, rfl⟩⟩
    · obtain ⟨leaves, hleaves, -⟩ := AddressBook.flattens_of_resolve hr
      exact absurd hloop (hleaves.not_reaches_cycle hreach)

/-- A reference resolves exactly if it leads into no cycle. -/
theorem resolve_eq_entriesOf_iff {r : Reference} :
    c.resolve r = .ok (c.entriesOf r) ↔ ¬ c.LeadsIntoCycle r := by
  rw [← exists_resolve_eq_error_iff]
  rcases hr : c.resolve r with e | items
  · simp
  · simp [entriesOf_of_resolve r items hr]

/-- The address lists fail as the first reference that leads into a cycle. -/
theorem listsFrom_eq_error :
    c.listsFrom (c.resolutions policies) policies = .error e ↔
      ∃ r, IsFirst c.LeadsIntoCycle (activeReferences policies) r ∧ c.resolve r = .error e := by
  simp only [listsFrom, addReferences, valueOf_resolutions]
  rw [foldlM_eq_error]
  simp only [exists_resolve_eq_error_iff]
  rfl

/-! ## Services -/

/-- A service expands: it is that of every packet, or each name that it reaches is a service or a
group and none of these reaches itself. -/
def Expands (c : Configuration) (service : String) : Prop :=
  service = anyService ∨ ∀ m, Relation.ReflTransGen c.services.HasMember service m →
    c.services.contains m = true ∧ ¬ Relation.TransGen c.services.HasMember m m

/-- The services of the active policies, each with the number of its policy, policy by policy. -/
def activeServices (policies : List Policy) : List (Int × String) :=
  (active policies).flatMap fun p => p.services.map (Prod.mk p.id)

/-- A service fails as its definitions do; the one for every packet does not. -/
theorem servicePasses_eq_error {policy : Int} {service : String} :
    c.servicePasses policy service = .error e ↔
      service ≠ anyService ∧
        ∃ f, c.services.definitions service = .error f ∧ e = serviceError policy f := by
  by_cases hany : service = anyService
  · simp [servicePasses, hany]
  · rw [servicePasses, if_neg hany, Catalog.protocols]
    rcases c.services.definitions service with (name | ⟨chain, name⟩) | ds
    · simp [hany, serviceError, eq_comm]
    · simp [hany, serviceError, eq_comm]
    · simp [Except.map]

/-- A service does not pass exactly if it does not expand, whatever policy names it. -/
theorem exists_servicePasses_eq_error_iff (c : Configuration) (policy : Int) (service : String) :
    (∃ e, c.servicePasses policy service = .error e) ↔ ¬ c.Expands service := by
  simp only [servicePasses_eq_error, Expands, not_or]
  constructor
  · rintro ⟨e, hany, f, hf, -⟩
    refine ⟨hany, fun hsound => ?_⟩
    obtain ⟨ds, hds⟩ := Catalog.exists_definitions_of_sound hsound
    rw [hf] at hds
    cases hds
  · rintro ⟨hany, hunsound⟩
    rcases hd : c.services.definitions service with f | ds
    · exact ⟨_, hany, f, rfl, rfl⟩
    · exact absurd (fun m hm => (Catalog.flattens_of_definitions hd).sound_of_reaches hm) hunsound

/-- A service passes exactly if it expands. -/
theorem servicePasses_eq_passesOf_iff {policy : Int} {service : String} :
    c.servicePasses policy service = .ok (c.passesOf policy service) ↔ c.Expands service := by
  rw [← not_iff_not, ← c.exists_servicePasses_eq_error_iff policy]
  rcases hpasses : c.servicePasses policy service with e | passes
  · simp
  · simp [passesOf_of_servicePasses hpasses]

/-- Its rules fail as it does. -/
theorem serviceRules_eq_error {sources destinations : List Endpoint} {service : String} :
    c.serviceRules p sources destinations service = .error e ↔
      c.servicePasses p.id service = .error e := by
  rw [serviceRules, bind_eq_error]
  simp [pure, Except.pure]

/-! ## Policies -/

/-- A policy whose references resolve fails as the first of its services that does not expand. -/
theorem policyRules_eq_error (hrefs : ∀ r ∈ p.references, ¬ c.LeadsIntoCycle r) :
    c.policyRules (c.resolutions policies) p = .error e ↔
      ∃ service, IsFirst (fun service => ¬ c.Expands service) p.services service ∧
        c.servicePasses p.id service = .error e := by
  have hends : ∀ refs ⊆ p.references, c.endpoints (c.resolutions policies) refs
      = .ok (c.endpointsOf refs) := fun refs hsub =>
    endpoints_eq_ok.2 ⟨fun r hr => resolve_eq_entriesOf_iff.2 (hrefs r (hsub hr)), rfl⟩
  have hsources := hends p.sourceReferences (List.subset_append_left _ _)
  have hdestinations := hends p.destinationReferences (List.subset_append_right _ _)
  -- the endpoints being there, only the services are left to fail
  simp only [policyRules, bind_eq_error, hsources, hdestinations, mapM_eq_error,
    serviceRules_eq_error, exists_servicePasses_eq_error_iff, reduceCtorEq, false_or,
    Except.ok.injEq, exists_eq_left']
  simp [pure, Except.pure]

/-- The rules fail as the first service of an active policy that does not expand. -/
theorem rulesFrom_eq_error (hrefs : ∀ r ∈ activeReferences policies, ¬ c.LeadsIntoCycle r) :
    c.rulesFrom (c.resolutions policies) policies = .error e ↔
      ∃ u, IsFirst (fun u => ¬ c.Expands u.2) (activeServices policies) u ∧
        c.servicePasses u.1 u.2 = .error e := by
  have hpolicy : ∀ p ∈ active policies, ∀ e, c.policyRules (c.resolutions policies) p = .error e ↔
      ∃ service, IsFirst (fun service => ¬ c.Expands service) p.services service ∧
        c.servicePasses p.id service = .error e := fun p hp e =>
    policyRules_eq_error fun r hr => hrefs r (List.mem_flatMap.2 ⟨p, hp, hr⟩)
  have hfails : ∀ p ∈ active policies,
      (∃ e, c.policyRules (c.resolutions policies) p = .error e) ↔
        ∃ u ∈ p.services.map (Prod.mk p.id), ¬ c.Expands u.2 := by
    intro p hp
    simp only [hpolicy p hp, List.mem_map, exists_exists_and_eq_and]
    constructor
    · rintro ⟨e, service, hfirst, -⟩
      exact ⟨service, hfirst.mem, hfirst.holds⟩
    · intro h
      obtain ⟨service, hfirst⟩ := exists_isFirst h
      obtain ⟨e, he⟩ := (c.exists_servicePasses_eq_error_iff _ _).2 hfirst.holds
      exact ⟨e, service, hfirst, he⟩
  rw [rulesFrom, mapM_eq_error]
  simp only [activeServices, isFirst_flatMap, isFirst_congr hfails, isFirst_map]
  constructor
  · rintro ⟨p, hfirst, he⟩
    obtain ⟨service, hservice, he⟩ := (hpolicy p hfirst.mem e).1 he
    exact ⟨_, ⟨p, hfirst, service, hservice, rfl⟩, he⟩
  · rintro ⟨_, ⟨p, hfirst, service, hservice, rfl⟩, he⟩
    exact ⟨p, hfirst, (hpolicy p hfirst.mem e).2 ⟨service, hservice, he⟩⟩

/-! ## Scripts -/

/-- Compiling fails as the first reference that leads into a cycle or, if there is none, as the
first service that does not expand. -/
theorem compile_eq_error_iff :
    c.compile policies = .error e ↔
      (∃ r, IsFirst c.LeadsIntoCycle (activeReferences policies) r ∧ c.resolve r = .error e) ∨
      ((∀ r ∈ activeReferences policies, ¬ c.LeadsIntoCycle r) ∧
        ∃ u, IsFirst (fun u => ¬ c.Expands u.2) (activeServices policies) u ∧
          c.servicePasses u.1 u.2 = .error e) := by
  have hlists : (∃ l, c.listsFrom (c.resolutions policies) policies = .ok l) ↔
      ∀ r ∈ activeReferences policies, ¬ c.LeadsIntoCycle r := by
    simp only [listsFrom_eq_ok, resolve_eq_entriesOf_iff, exists_and_left, exists_eq, and_true]
  simp only [compile, bind_eq_error, listsFrom_eq_error]
  refine or_congr_right ?_
  rw [← hlists]
  constructor
  · rintro ⟨l, hl, hrules | ⟨blocks, -, hscript⟩⟩
    · exact ⟨⟨l, hl⟩, (rulesFrom_eq_error (hlists.1 ⟨l, hl⟩)).1 hrules⟩
    · cases hscript
  · rintro ⟨⟨l, hl⟩, hrules⟩
    exact ⟨l, hl, .inl ((rulesFrom_eq_error (hlists.1 ⟨l, hl⟩)).2 hrules)⟩

/-- Policies that are not active play no part. -/
theorem compile_active (c : Configuration) (policies : List Policy) :
    c.compile (active policies) = c.compile policies := by
  have hactive : active (active policies) = active policies := by
    simp [active]
  simp only [compile, listsFrom, rulesFrom, resolutions, hactive]

/-- **Why policies do not compile.** They do exactly if for every active policy no reference leads
into a cycle and every service expands; whether the references come to any address does not matter,
and policies that are not active play no part. The error is that of the first reference that leads
into a cycle, ahead of all services. Without one it is that of the first service that does not
expand, policy by policy: it tells the policy's number and the unknown name, or the cycle, that
comes first in depth-first member order. -/
theorem compile_fails_first (c : Configuration) (policies : List Policy) :
    ((∃ script, c.compile policies = .ok script) ↔
      ∀ p ∈ active policies, (∀ r ∈ p.references, ¬ c.LeadsIntoCycle r) ∧
        ∀ service ∈ p.services, c.Expands service) ∧
    c.compile (active policies) = c.compile policies ∧
    ∀ e, c.compile policies = .error e ↔
      (∃ r cycle, IsFirst c.LeadsIntoCycle (activeReferences policies) r ∧
        c.objects.resolve r.zone r.name = .error cycle ∧ e = .cyclicAddresses r.zone cycle) ∨
      ((∀ r ∈ activeReferences policies, ¬ c.LeadsIntoCycle r) ∧
        ∃ policy service f path,
          IsFirst (fun u => ¬ c.Expands u.2) (activeServices policies) (policy, service) ∧
          c.services.FailsAt [] [service] path f ∧
          (∀ path' g, c.services.FailsAt [] [service] path' g → ¬ List.Lex (· < ·) path' path) ∧
          e = serviceError policy f) := by
  refine ⟨⟨?_, fun h => ?_⟩, compile_active c policies, fun e => ?_⟩
  · rintro ⟨script, hscript⟩ p hp
    have hc := (compile_eq_ok.1 hscript).1 p hp
    exact ⟨fun r hr => resolve_eq_entriesOf_iff.1 (hc.references r hr), fun service hservice =>
      servicePasses_eq_passesOf_iff.1 (hc.services service hservice)⟩
  · refine ⟨_, compile_eq_ok.2 ⟨fun p hp => ⟨fun r hr => ?_, fun service hservice => ?_⟩, rfl⟩⟩
    · exact resolve_eq_entriesOf_iff.2 ((h p hp).1 r hr)
    · exact servicePasses_eq_passesOf_iff.2 ((h p hp).2 service hservice)
  · rw [compile_eq_error_iff]
    simp only [resolve_eq_error_iff, servicePasses_eq_error, Catalog.definitions_eq_error_iff]
    constructor
    · rintro (⟨r, hr, cycle, hcycle, he⟩ | ⟨hrefs, u, hu, -, f, ⟨path, hf, hleast⟩, he⟩)
      · exact .inl ⟨r, cycle, hr, hcycle, he⟩
      · exact .inr ⟨hrefs, u.1, u.2, f, path, hu, hf, hleast, he⟩
    · rintro (⟨r, cycle, hr, hcycle, he⟩ | ⟨hrefs, policy, service, f, path, hu, hf, hleast, he⟩)
      · exact .inl ⟨r, hr, cycle, hcycle, he⟩
      · have hany : service ≠ anyService := fun hany => hu.holds (.inl hany)
        exact .inr ⟨hrefs, _, hu, hany, f, ⟨path, hf, hleast⟩, he⟩

end Configuration

end ZoneFirewall
