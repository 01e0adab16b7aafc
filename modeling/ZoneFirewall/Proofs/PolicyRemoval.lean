import ZoneFirewall.Proofs.Instructions
import ZoneFirewall.Proofs.Rearrangement
import ZoneFirewall.Script.Compile

/-!
# Leaving a policy out

The lines about one policy are the line that creates it, its flags and its blocks, whatever these
hold. Without them all else is read as before: the two runs go side by side, and where the one
reads a block of the policy the other waits outside all blocks.

* `concernedPolicy?`, `withoutPolicy`: the policy that a line is about, and the lines that are not
  about a policy.
* `Reading.Without`: states that differ in the policy alone. `Does.without`, `Does.within`,
  `LeadsTo.without`, `LeadsTo.within`: **a line keeps two states so**, whether it is about the
  policy or not.
* `exists_walk_withoutPolicy`: so do many lines.
* `compile_congr`: compiling is a matter of the objects and the services.
* `ofLines_withoutPolicy`: **accepted lines are accepted without those of a policy, and all but the
  policy is the same**, as is every script that the policy has no part in.
-/

namespace ZoneFirewall

open Text

/-! ## Lines about a policy -/

/-- The number of the policy that a directive is about. -/
def Directive.policyNumber? : Directive → Option Int
  | .policyCreate h => some (numeralValue h.id)
  | .policyBlock id => some (numeralValue id)
  | .policyFlag id _ _ => some (numeralValue id)
  | _ => none

/-- The number of the policy that a line is about, given the block that is open before it. The lines
of a block are about the block's policy, from the one that opens it to the one that ends it. -/
def concernedPolicy? (text : String) : Option OpenBlock → Option Int
  | none => (directiveOf? text).bind Directive.policyNumber?
  | some b => some (numeralValue b.policy)

/-- The lines that are not about the policy of a number, among lines of which the first has a
number, given the block that is open before them. -/
def withoutPolicyFrom (n : Int) (number : Nat) (b : Option OpenBlock) : List String → List String
  | [] => []
  | text :: rest =>
    (if concernedPolicy? text b = some n then [] else [text])
      ++ withoutPolicyFrom n (number + 1) (nextBlock number text b) rest

/-- The lines that are not about the policy of a number. -/
def withoutPolicy (n : Int) (texts : List String) : List String := withoutPolicyFrom n 1 none texts

/-- Lines after others are taken out of both, the block that is open in between given. -/
theorem withoutPolicyFrom_append (n : Int) (first second : List String) (number : Nat)
    (b : Option OpenBlock) :
    withoutPolicyFrom n number b (first ++ second)
      = withoutPolicyFrom n number b first
        ++ withoutPolicyFrom n (number + first.length) (openBlockFrom number b first) second := by
  induction first generalizing number b with
  | nil => rfl
  | cons text first ih =>
      rw [List.cons_append, withoutPolicyFrom, withoutPolicyFrom, openBlockFrom, ih,
        List.append_assoc, List.length_cons, Nat.add_right_comm, Nat.add_assoc]

/-- A further line is left unless it is about the policy. -/
theorem withoutPolicy_append_singleton (n : Int) (before : List String) (text : String) :
    withoutPolicy n (before ++ [text])
      = withoutPolicy n before
        ++ if concernedPolicy? text (openBlock before) = some n then [] else [text] := by
  rw [withoutPolicy, withoutPolicyFrom_append, withoutPolicyFrom, withoutPolicyFrom,
    List.append_nil]
  rfl

/-- A known policy has the number that the digits of a directive stand for. -/
theorem Directive.WellWritten.eq_of_policyIn {d : Directive} (hd : d.WellWritten) {text : String}
    (htext : text ∈ d.numerals) {policies : List Policy} {id : Int}
    (h : Reading.policyIn policies text = .ok id) : id = numeralValue text :=
  eq_numeralValue (hd.1 _ htext) (Reading.policyIn_eq_ok.1 h).1

/-- A place in a block is in that of the policy of the open block. -/
theorem Place.Stands.policy?_eq {place : Place} {before : List String}
    (h : place.Stands (openBlock before)) :
    place.policy? = (openBlock before).map fun b => (numeralValue b.policy : Int) := by
  have hnumeral : ∀ b, openBlock before = some b → IsNumeral b.policy :=
    fun b => isNumeral_of_openBlock
  generalize openBlock before = b at h hnumeral
  cases h with
  | topLevel => rfl
  | block hread =>
      rw [eq_numeralValue (hnumeral _ rfl) hread]
      rfl

namespace Reading

variable {resolver : Option Resolver} {s s' t : Reading} {place place' place₁ : Place}
  {number number' : Nat} {n id : Int} {d : Directive} {text : String} {before texts : List String}
  {change : Policy → Policy}

/-! ## States without a policy -/

/-- The second state is the first without the policy of a number, up to the numbers of lines. -/
structure Without (n : Int) (s t : Reading) : Prop where
  /-- The other parts do not differ. -/
  others : ∀ p, p ≠ Part.policies → Agree p s t
  /-- The policies are the other ones. -/
  policies : t.configuration.policies = s.configuration.policies.filter (·.id ≠ n)

/-- A state is one without a policy that is not there. -/
theorem Without.refl (h : n ∉ s.configuration.policies.map (·.id)) : Without n s s where
  others p _ := .refl p s
  policies := by
    symm
    rw [List.filter_eq_self]
    intro p hp
    rw [decide_eq_true_eq]
    rintro rfl
    exact h (List.mem_map_of_mem hp)

/-- The numbers of the other policies are known in both states. -/
theorem Without.mem_ids_iff (h : Without n s t) (hid : id ≠ n) :
    id ∈ t.configuration.policies.map (·.id) ↔ id ∈ s.configuration.policies.map (·.id) := by
  simp only [h.policies, List.mem_map, List.mem_filter, decide_eq_true_eq]
  constructor
  · rintro ⟨p, ⟨hp, -⟩, rfl⟩
    exact ⟨p, hp, rfl⟩
  · rintro ⟨p, hp, rfl⟩
    exact ⟨p, ⟨hp, hid⟩, rfl⟩

/-- A change to a policy commutes with leaving one out. -/
theorem filter_policies_onPolicy (hchange : ∀ p, (change p).id = p.id) :
    (s.onPolicy id change).configuration.policies.filter (·.id ≠ n)
      = (s.configuration.policies.filter (·.id ≠ n)).map
          fun p => if p.id = id then change p else p := by
  have hid : ∀ p : Policy, (if p.id = id then change p else p).id = p.id := by
    intro p
    rw [apply_ite Policy.id, hchange, ite_self]
  simp only [onPolicy, Configuration.withPolicy, List.filter_map, Function.comp_def, hid]

/-- A change to another policy is made in both states. -/
theorem Without.onPolicy (h : Without n s t) (hchange : ∀ p, (change p).id = p.id) (id : Int) :
    Without n (s.onPolicy id change) (t.onPolicy id change) where
  others p hp := ((agree_onPolicy hp id change).symm.trans (h.others p hp)).trans
    (agree_onPolicy hp id change)
  policies := by
    rw [filter_policies_onPolicy hchange, ← h.policies]
    rfl

/-- A change to the policy itself is made in the first state alone. -/
theorem Without.onPolicy_left (h : Without n s t) (hchange : ∀ p, (change p).id = p.id) :
    Without n (s.onPolicy n change) t where
  others p hp := (agree_onPolicy hp n change).symm.trans (h.others p hp)
  policies := by
    have hsame : ∀ p ∈ s.configuration.policies.filter (·.id ≠ n),
        (if p.id = n then change p else p) = p := by
      intro p hp
      have hne : p.id ≠ n := by simpa using (List.mem_filter.1 hp).2
      exact if_neg hne
    rw [filter_policies_onPolicy hchange, h.policies, List.map_congr_left hsame, List.map_id']

/-- A place in the second run for one in the first: in the same block, but outside all blocks where
the first is in a block of the policy. -/
def Beside (n : Int) (place place₁ : Place) : Prop :=
  place₁.policy? = place.policy?.filter (· ≠ n)

/-- A new policy of another number is new in both states. -/
theorem Without.newPolicy_eq_ok (h : Without n s t) {header : PolicyHeader} {p : Policy}
    (hp : newPolicy s.configuration.policies header = .ok p) (hne : p.id ≠ n) :
    newPolicy t.configuration.policies header = .ok p := by
  obtain ⟨id, natPort, hid, hport, hfree, hvalid, rfl⟩ := Reading.newPolicy_eq_ok.1 hp
  exact Reading.newPolicy_eq_ok.2
    ⟨id, natPort, hid, hport, fun hmem => hfree ((h.mem_ids_iff hne).1 hmem), hvalid, rfl⟩

/-- A known policy of another number is known in both states. -/
theorem Without.policyIn_eq_ok (h : Without n s t)
    (hid : policyIn s.configuration.policies text = .ok id) (hne : id ≠ n) :
    policyIn t.configuration.policies text = .ok id := by
  obtain ⟨hread, hmem⟩ := Reading.policyIn_eq_ok.1 hid
  exact Reading.policyIn_eq_ok.2 ⟨hread, (h.mem_ids_iff hne).2 hmem⟩

/-! ## Directives and lines -/

/-- A directive about another part leads into no block. -/
theorem Does.policy?_eq_none (h : Does resolver number s d place' s') (hpart : d.part ≠ .policies) :
    place'.policy? = none := by
  cases h with
  | policyBlock => exact absurd rfl hpart
  | _ => rfl

/-- A directive about another part does the same in both states. -/
theorem Does.without_of_part (h : Does resolver number s d place' s')
    (hpart : d.part ≠ .policies) (hst : Without n s t) (number' : Nat) :
    ∃ place₂ t', Does resolver number' t d place₂ t' ∧ Beside n place' place₂ ∧
      Without n s' t' := by
  obtain ⟨place₂, t', hdoes, hsame, hagree⟩ := h.of_agree (hst.others _ hpart) number'
  have hs : s.configuration.policies = s'.configuration.policies := h.agree hpart.symm
  have ht : t.configuration.policies = t'.configuration.policies := hdoes.agree hpart.symm
  refine ⟨place₂, t', hdoes, ?_, ?_, ?_⟩
  · rw [Beside, ← hsame, h.policy?_eq_none hpart]
    rfl
  · intro p hp
    by_cases hq : p = d.part
    · rw [hq]
      exact hagree
    · exact ((h.agree hq).symm.trans (hst.others p hp)).trans (hdoes.agree hq)
  · rw [← ht, ← hs, hst.policies]

/-- **A directive that is not about the policy does the same in both states.** -/
theorem Does.without (h : Does resolver number s d place' s') (hd : d.WellWritten)
    (hkept : d.policyNumber? ≠ some n) (hst : Without n s t) (number' : Nat) :
    ∃ place₂ t', Does resolver number' t d place₂ t' ∧ Beside n place' place₂ ∧
      Without n s' t' := by
  by_cases hpart : d.part = .policies
  · cases h with
    | @policyCreate header p hp =>
        obtain ⟨id, natPort, hid, -, -, -, hpolicy⟩ := Reading.newPolicy_eq_ok.1 hp
        have hne : p.id ≠ n := by
          rw [hpolicy]
          rintro rfl
          exact hkept (congrArg some (eq_numeralValue (hd.1 _ List.mem_cons_self) hid).symm)
        refine ⟨_, _, .policyCreate (hst.newPolicy_eq_ok hp hne), rfl, ?_, ?_⟩
        · intro q hq
          exact ((agree_addPolicy hq p).symm.trans (hst.others q hq)).trans (agree_addPolicy hq p)
        · simp only [Configuration.addPolicy, List.filter_append, hst.policies]
          simp [hne]
    | @policyBlock text id hid =>
        have hne : id ≠ n := by
          rintro rfl
          exact hkept (congrArg some (hd.eq_of_policyIn List.mem_cons_self hid).symm)
        refine ⟨_, _, .policyBlock (hst.policyIn_eq_ok hid hne), ?_, hst⟩
        simp [Beside, Place.policy?, Option.filter_some, hne]
    | @policyFlag text flag value id hid =>
        have hne : id ≠ n := by
          rintro rfl
          exact hkept (congrArg some (hd.eq_of_policyIn List.mem_cons_self hid).symm)
        exact ⟨_, _, .policyFlag (hst.policyIn_eq_ok hid hne), rfl,
          hst.onPolicy (id_flagChange flag value) id⟩
    | _ => cases hpart
  · exact h.without_of_part hpart hst number'

/-- **A directive about the policy may be left out.** -/
theorem Does.within (h : Does resolver number s d place' s') (hd : d.WellWritten)
    (habout : d.policyNumber? = some n) (hst : Without n s t) :
    Beside n place' .topLevel ∧ Without n s' t := by
  cases h with
  | @policyCreate header p hp =>
      obtain ⟨id, natPort, hid, -, -, -, rfl⟩ := Reading.newPolicy_eq_ok.1 hp
      have heq : id = n := by
        rw [eq_numeralValue (hd.1 _ List.mem_cons_self) hid]
        exact Option.some.inj habout
      refine ⟨rfl, fun q hq => (agree_addPolicy hq _).symm.trans (hst.others q hq), ?_⟩
      simp only [Configuration.addPolicy, List.filter_append, hst.policies]
      simp [policyOf, heq]
  | @policyBlock text id hid =>
      have heq : id = n := by
        rw [hd.eq_of_policyIn List.mem_cons_self hid]
        exact Option.some.inj habout
      exact ⟨by simp [Beside, Place.policy?, Option.filter_some, heq], hst⟩
  | @policyFlag text flag value id hid =>
      have heq : id = n := by
        rw [hd.eq_of_policyIn List.mem_cons_self hid]
        exact Option.some.inj habout
      rw [heq]
      exact ⟨rfl, hst.onPolicy_left (id_flagChange flag value)⟩
  | _ => cases habout

/-- **A line that is not about the policy does the same in both runs.** -/
theorem LeadsTo.without (h : LeadsTo resolver number s text place place' s')
    (hplace : place.Stands (openBlock before))
    (hkept : concernedPolicy? text (openBlock before) ≠ some n) (hst : Without n s t)
    (hbeside : Beside n place place₁) (number' : Nat) :
    ∃ place₂ t', LeadsTo resolver number' t text place₁ place₂ t' ∧ Beside n place' place₂ ∧
      Without n s' t' := by
  have hblock := hplace.policy?_eq
  generalize openBlock before = b at hplace hkept hblock
  cases hplace with
  | topLevel =>
      cases place₁ with
      | block => cases hbeside
      | topLevel =>
          cases h with
          | passedOver hnone => exact ⟨_, _, .passedOver hnone, rfl, hst⟩
          | directive hsome hdoes =>
              rw [concernedPolicy?, directiveOf?, hsome] at hkept
              obtain ⟨place₂, t', hdoes', hplace', hst'⟩ :=
                hdoes.without (exists_family_of_classify hsome).1 hkept hst number'
              exact ⟨place₂, t', .directive hsome hdoes', hplace', hst'⟩
  | @block id openedAt =>
      have hne : id ≠ n := by
        rintro rfl
        exact hkept hblock.symm
      have hpolicy : place₁.policy? = some id := by
        rw [hbeside]
        simp [Place.policy?, Option.filter_some, hne]
      cases place₁ with
      | topLevel => cases hpolicy
      | block id₁ openedAt₁ =>
          cases hpolicy
          cases h with
          | blockEnd hend => exact ⟨_, _, .blockEnd hend, rfl, hst⟩
          | blank hblank => exact ⟨_, _, .blank hblank, hbeside, hst⟩
          | blockLine hend hline hchange =>
              exact ⟨_, _, .blockLine hend hline hchange, hbeside,
                hst.onPolicy (id_of_blockChange hchange) id⟩

/-- **A line about the policy may be left out.** -/
theorem LeadsTo.within (h : LeadsTo resolver number s text place place' s')
    (hplace : place.Stands (openBlock before))
    (habout : concernedPolicy? text (openBlock before) = some n) (hst : Without n s t)
    (hbeside : Beside n place place₁) : Beside n place' place₁ ∧ Without n s' t := by
  have hblock := hplace.policy?_eq
  generalize openBlock before = b at hplace habout hblock
  cases hplace with
  | topLevel =>
      cases place₁ with
      | block => cases hbeside
      | topLevel =>
          cases h with
          | passedOver hnone =>
              rw [concernedPolicy?, directiveOf?, hnone] at habout
              cases habout
          | directive hsome hdoes =>
              rw [concernedPolicy?, directiveOf?, hsome] at habout
              exact hdoes.within (exists_family_of_classify hsome).1 habout hst
  | @block id openedAt =>
      have heq : id = n := Option.some.inj (hblock.trans habout)
      have houtside : place₁.policy? = none := by
        rw [hbeside]
        simp [Place.policy?, Option.filter_some, heq]
      cases h with
      | blockEnd => exact ⟨houtside, hst⟩
      | blank => exact ⟨hbeside, hst⟩
      | blockLine _ _ hchange =>
          rw [heq]
          exact ⟨heq ▸ hbeside, hst.onPolicy_left (id_of_blockChange hchange)⟩

/-! ## Walks -/

/-- **A walk through lines is one through those that are not about the policy**, to the same state
but for the policy. -/
theorem exists_walk_withoutPolicy (hfree : n ∉ s.configuration.policies.map (·.id))
    (h : walk resolver 1 .topLevel s texts = some (place, s')) :
    ∃ place₁ t, walk resolver 1 .topLevel s (withoutPolicy n texts) = some (place₁, t) ∧
      Beside n place place₁ ∧ Without n s' t := by
  -- From the end, since which policy a line is about depends on the lines before it.
  induction texts using List.reverseRecOn generalizing place s' with
  | nil =>
      cases h
      exact ⟨.topLevel, s, rfl, rfl, .refl hfree⟩
  | append_singleton texts text ih =>
      obtain ⟨place₀, s₀, hwalk, hleads⟩ := walk_append_singleton_eq_some.1 h
      obtain ⟨place₁, t, hwalk', hbeside, hst⟩ := ih hwalk
      have hstands : place₀.Stands (openBlock texts) := stands_of_walk hwalk .topLevel
      rw [withoutPolicy_append_singleton]
      by_cases habout : concernedPolicy? text (openBlock texts) = some n
      · rw [if_pos habout, List.append_nil]
        exact ⟨place₁, t, hwalk', hleads.within hstands habout hst hbeside⟩
      · rw [if_neg habout]
        obtain ⟨place₂, t', hleads', hbeside', hst'⟩ := hleads.without hstands habout hst hbeside
          (1 + (withoutPolicy n texts).length)
        exact ⟨place₂, t', walk_append_singleton_eq_some.2 ⟨place₁, t, hwalk', hleads'⟩,
          hbeside', hst'⟩

end Reading

/-! ## Whole configurations -/

/-- Compiling is a matter of the objects and the services. -/
theorem Configuration.compile_congr {c c' : Configuration} (hobjects : c'.objects = c.objects)
    (hservices : c'.services = c.services) (policies : List Policy) :
    c'.compile policies = c.compile policies := by
  cases c
  cases c'
  cases hobjects
  cases hservices
  rfl

/-- Policies from or to some zones are kept without one of which this is not the case. -/
theorem Configuration.policiesOf_without {c c' : Configuration} {n : Int}
    (hpolicies : c'.policies = c.policies.filter (·.id ≠ n)) {zones : List WideText}
    (hdropped : ∀ p ∈ c.policiesOf zones, p.id ≠ n) : c'.policiesOf zones = c.policiesOf zones := by
  rw [policiesOf, hpolicies, List.filter_comm]
  exact List.filter_eq_self.2 fun p hp => decide_eq_true (hdropped p hp)

/-- **One policy has no part in the rest.** Lines that are accepted are accepted without those about
one policy too, over the same services and hosts. Objects and services are the same, the policies
are the others with all their fields and in their order, and the same problems are met but for the
numbers of their lines. So if the policy is not from or to the zones of interest, those that are of
interest are the same, and compiling them gives the same script, or fails in the same way. -/
theorem ofLines_withoutPolicy {services : Catalog} {resolver : Option Resolver}
    {texts : List String} {c : Configuration}
    (h : Configuration.ofLines services resolver texts = .ok c) (n : Int) :
    ∃ c', Configuration.ofLines services resolver (withoutPolicy n texts) = .ok c' ∧
      c'.objects = c.objects ∧ c'.services = c.services ∧
      c'.policies = c.policies.filter (·.id ≠ n) ∧
      c'.diagnostics.map (·.problem) = c.diagnostics.map (·.problem) ∧
      ∀ zones, (∀ p ∈ c.policiesOf zones, p.id ≠ n) →
        c'.policiesOf zones = c.policiesOf zones ∧
          c'.compile (c'.policiesOf zones) = c.compile (c.policiesOf zones) := by
  obtain ⟨s, hwalk, rfl⟩ := ofLines_eq_ok_iff.1 h
  obtain ⟨place₁, t, hwalk', hbeside, hst⟩ :=
    Reading.exists_walk_withoutPolicy (n := n) List.not_mem_nil hwalk
  obtain ⟨hservices, -, -⟩ := hst.others .services (by decide)
  obtain ⟨hobjects, hproblems⟩ := hst.others .addresses (by decide)
  cases place₁ with
  | block => cases hbeside
  | topLevel =>
      refine ⟨t.configuration, ofLines_eq_ok_iff.2 ⟨t, hwalk', rfl⟩, hobjects.symm,
        hservices.symm, hst.policies, hproblems.symm, fun zones hdropped => ?_⟩
      have hkept := Configuration.policiesOf_without hst.policies hdropped
      refine ⟨hkept, ?_⟩
      rw [hkept]
      exact Configuration.compile_congr hobjects.symm hservices.symm _

/-- What looks like a service in a block of the policy stays there, and its number may be spelled in
more than one way. -/
theorem ofLines_without_block :
    ∃ c c', Configuration.ofLines .predefined none
          ["set policy id 1 from \"a\" to \"b\" \"x\" \"y\" \"z\" permit",
            "set service \"s\" protocol tcp",
            "set policy id 2 from \"b\" to \"c\" \"x\" \"y\" \"z\" deny",
            "set policy id 02", "set service \"t\"", "exit", "set policy id 1",
            "set service \"s\"", "exit", "set service \"u\" + udp", "set policy id 2 disable"]
        = .ok c ∧
      Configuration.ofLines .predefined none
          ["set policy id 1 from \"a\" to \"b\" \"x\" \"y\" \"z\" permit",
            "set service \"s\" protocol tcp", "set policy id 1", "set service \"s\"", "exit",
            "set service \"u\" + udp"]
        = .ok c' ∧
      c'.objects = c.objects ∧ c'.services = c.services ∧
        c'.policies = c.policies.filter (·.id ≠ 2) ∧
        c'.diagnostics.map (·.problem) = c.diagnostics.map (·.problem) ∧
        c'.policiesOf ["a"] = c.policiesOf ["a"] ∧
        c'.compile (c'.policiesOf ["a"]) = c.compile (c.policiesOf ["a"]) := by
  generalize htexts :
    ["set policy id 1 from \"a\" to \"b\" \"x\" \"y\" \"z\" permit",
      "set service \"s\" protocol tcp",
      "set policy id 2 from \"b\" to \"c\" \"x\" \"y\" \"z\" deny",
      "set policy id 02", "set service \"t\"", "exit", "set policy id 1",
      "set service \"s\"", "exit", "set service \"u\" + udp", "set policy id 2 disable"] = texts
  have hdropped : ((Configuration.ofLines .predefined none texts).map fun c =>
      (c.policiesOf ["a"]).all (·.id ≠ 2)).toOption = some true := by
    rw [← htexts]
    decide +kernel
  have hwithout : withoutPolicy 2 texts
      = ["set policy id 1 from \"a\" to \"b\" \"x\" \"y\" \"z\" permit",
          "set service \"s\" protocol tcp", "set policy id 1", "set service \"s\"", "exit",
          "set service \"u\" + udp"] := by
    rw [← htexts]
    decide +kernel
  rcases hrun : Configuration.ofLines .predefined none texts with e | c
  · rw [hrun] at hdropped
    cases hdropped
  · rw [hrun] at hdropped
    obtain ⟨c', hrun', hobjects, hservices, hpolicies, hproblems, hzones⟩ :=
      ofLines_withoutPolicy hrun 2
    rw [hwithout] at hrun'
    have hkept : ∀ p ∈ c.policiesOf ["a"], p.id ≠ 2 := by
      simpa [Except.map, Except.toOption] using hdropped
    exact ⟨c, c', rfl, hrun', hobjects, hservices, hpolicies, hproblems, hzones ["a"] hkept⟩

end ZoneFirewall
