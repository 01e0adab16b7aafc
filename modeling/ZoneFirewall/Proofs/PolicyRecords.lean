import ZoneFirewall.Proofs.Instructions
import ZoneFirewall.Proofs.Rearrangement

/-!
# What policies end up as

A policy is created by one line. Flags and the lines of its blocks, wherever they stand later on and
whatever lies between them, change it bit by bit, and nothing else does. So each of its fields in
the end can be read off the lines.

* `PolicyChange`, `Instruction.change?`, `changesTo`: what may happen to a policy, and what lines
  make of that.
* `PolicyHeader.after`: the policy of a header after some changes, field by field.
  `after_append_singleton`: **one more change does to it what it does to a policy.**
* `Revises`, `Records`: what following an instruction does to policies, and what keeps them the
  policies of the headers (`Revises.records`).
* `policies_ofLines`: **accepted lines make one policy for each header, in order, with the changes
  to its number.**
-/

namespace ZoneFirewall

open Text

/-! ## Changes -/

/-- What may happen to a policy after its creation. -/
inductive PolicyChange where
  /-- It is switched off. -/
  | disable
  /-- It is given an application, or an empty one. -/
  | application (value : String)
  /-- One of its lists gets a name. -/
  | member (kind : MemberKind) (name : String)
  /-- Its sessions are logged when they begin. -/
  | logSessions
  deriving DecidableEq, Repr

namespace PolicyChange

/-- The policy with the change. -/
def apply : PolicyChange → Policy → Policy
  | .disable, p => { p with disabled := true }
  | .application value, p => { p with application := value }
  | .member kind name, p => Reading.memberChange kind name p
  | .logSessions, p => { p with logInit := true }

/-- The application that is given. -/
def application? : PolicyChange → Option String
  | .application value => some value
  | _ => none

/-- The name that the list of a kind gets. -/
def member? (kind : MemberKind) : PolicyChange → Option String
  | .member k name => if k = kind then some name else none
  | _ => none

/-- A change leaves the number of its policy. -/
theorem id_apply (c : PolicyChange) (p : Policy) : (c.apply p).id = p.id := by
  cases c with
  | member kind name =>
      cases kind with
      | service => rfl
      | destination => rfl
      | source => rfl
  | _ => rfl

end PolicyChange

namespace Instruction

/-- The header of the policy that is created. -/
def header? : Instruction → Option PolicyHeader
  | .directive (.policyCreate h) => some h
  | _ => none

/-- The change that is made, with the number of its policy. A flag without an application gives an
empty one. -/
def change? : Instruction → Option (Int × PolicyChange)
  | .directive (.policyFlag text .disable _) => some (numeralValue text, .disable)
  | .directive (.policyFlag text .application value) =>
    some (numeralValue text, .application (value.getD ""))
  | .inBlock id (.member kind name) => some (id, .member kind name)
  | .inBlock id (.log option) =>
    if option = Reading.sessionLogOption then some (id, .logSessions) else none
  | _ => none

end Instruction

/-- The headers of the policies that are created. -/
def headersOf (is : List Instruction) : List PolicyHeader := is.filterMap Instruction.header?

/-- The changes that are made, with the numbers of their policies. -/
def changesOf (is : List Instruction) : List (Int × PolicyChange) :=
  is.filterMap Instruction.change?

/-- The changes that are made to the policy of a number. -/
def changesTo (id : Int) (is : List Instruction) : List PolicyChange :=
  valuesFor id (changesOf is)

/-- The policy of a header after some changes. Its lists go on with the names that they got, in
order and with repetitions, its application is the last one, and all that no change is about is as
in the header. -/
def PolicyHeader.after (h : PolicyHeader) (cs : List PolicyChange) : Policy where
  id := numeralValue h.id
  fromZone := h.fromZone
  toZone := h.toZone
  name := h.name.getD ""
  disabled := .disable ∈ cs
  sources := h.source :: cs.filterMap (·.member? .source)
  destinations := h.destination :: cs.filterMap (·.member? .destination)
  services := h.service :: cs.filterMap (·.member? .service)
  application := (cs.filterMap (·.application?)).getLast?.getD ""
  nat := h.nat
  natAddress := h.natAddress.getD ""
  natPort := h.natPort.map fun n => (numeralValue n : Int)
  action := h.action
  log := h.log
  logInit := .logSessions ∈ cs

/-- So do all changes together. -/
theorem id_after (h : PolicyHeader) (cs : List PolicyChange) :
    (h.after cs).id = numeralValue h.id := rfl

/-- **One more change does to the policy of a header what it does to a policy.** -/
theorem after_append_singleton (h : PolicyHeader) (cs : List PolicyChange) (c : PolicyChange) :
    h.after (cs ++ [c]) = c.apply (h.after cs) := by
  -- Every field takes in what the change is about, which for most of them is nothing.
  rcases c with _ | value | ⟨_ | _ | _, name⟩ | _
  all_goals simp [PolicyHeader.after, PolicyChange.apply, PolicyChange.member?,
    PolicyChange.application?, Reading.memberChange]

variable {is : List Instruction} {i : Instruction} {id : Int}

/-- A further instruction adds its header, if it creates a policy. -/
theorem headersOf_append_singleton : headersOf (is ++ [i]) = headersOf is ++ i.header?.toList :=
  filterMap_append_singleton _ is i

/-- It adds its change, if it makes one. -/
theorem changesOf_append_singleton : changesOf (is ++ [i]) = changesOf is ++ i.change?.toList :=
  filterMap_append_singleton _ is i

/-- A change is one more for the policy of its number. -/
theorem changesTo_append_singleton {c : Int × PolicyChange} (h : i.change? = some c) :
    changesTo id (is ++ [i]) = changesTo id is ++ if c.1 = id then [c.2] else [] := by
  rw [changesTo, changesOf_append_singleton, h]
  exact valuesFor_append_singleton id (changesOf is) c

/-- To any policy it adds nothing if it makes none. -/
theorem changesTo_append_singleton_of_none (h : i.change? = none) :
    changesTo id (is ++ [i]) = changesTo id is := by
  rw [changesTo, changesOf_append_singleton, h, Option.toList_none, List.append_nil, changesTo]

/-! ## States -/

/-- What following an instruction comes to for the policies. -/
inductive Revises (policies : List Policy) (i : Instruction) : List Policy → Prop where
  /-- A policy comes to be whose number is not taken. -/
  | creation {h : PolicyHeader} :
      i.header? = some h → i.change? = none →
        (numeralValue h.id : Int) ∉ policies.map (·.id) →
          Revises policies i (policies ++ [h.after []])
  /-- A policy that there is changes. -/
  | change {id : Int} {c : PolicyChange} :
      i.header? = none → i.change? = some (id, c) → id ∈ policies.map (·.id) →
        Revises policies i (policies.map fun p => if p.id = id then c.apply p else p)
  /-- Nothing happens. -/
  | nothing :
      i.header? = none → i.change? = none → Revises policies i policies

/-- A policy that is created is that of its header. -/
theorem newPolicy_eq_after {policies : List Policy} {h : PolicyHeader} {p : Policy}
    (hwritten : (Directive.policyCreate h).WellWritten)
    (hp : Reading.newPolicy policies h = .ok p) :
    p = h.after [] ∧ (numeralValue h.id : Int) ∉ policies.map (·.id) := by
  obtain ⟨id, natPort, hid, hport, hfree, -, rfl⟩ := Reading.newPolicy_eq_ok.1 hp
  obtain rfl := eq_numeralValue (hwritten.1 _ List.mem_cons_self) hid
  obtain rfl := eq_map_numeralValue
    (fun n hn => hwritten.1 n (by simp [Directive.numerals, Option.mem_def.1 hn])) hport
  exact ⟨by simp [PolicyHeader.after, Reading.policyOf], hfree⟩

/-- **An instruction that is followed revises the policies.** -/
theorem Reading.Follows.revises {resolver : Option Resolver} {number : Nat} {s s' : Reading}
    (h : Reading.Follows resolver number s i s') :
    Revises s.configuration.policies i s'.configuration.policies := by
  cases h with
  | @directive d _ _ hwritten hdoes =>
      by_cases hpart : Part.policies = d.part
      · cases hdoes with
        | policyCreate hp =>
            obtain ⟨rfl, hfree⟩ := newPolicy_eq_after hwritten hp
            exact .creation rfl rfl hfree
        | policyBlock => exact .nothing rfl rfl
        | @policyFlag text flag value id hid =>
            obtain ⟨hread, hknown⟩ := policyIn_eq_ok.1 hid
            obtain rfl := eq_numeralValue (hwritten.1 _ List.mem_cons_self) hread
            cases flag with
            | disable => exact .change (c := .disable) rfl rfl hknown
            | application => exact .change (c := .application (value.getD "")) rfl rfl hknown
        | _ => cases hpart
      · rw [← show s.configuration.policies = s'.configuration.policies from hdoes.agree hpart]
        cases d with
        | policyCreate | policyBlock | policyFlag => exact absurd rfl hpart
        | _ => exact .nothing rfl rfl
  | @inBlock id l change hknown hchange =>
      rcases l with ⟨kind, name⟩ | option
      · cases hchange
        exact .change (c := .member kind name) rfl rfl hknown
      · simp only [blockChange] at hchange
        split at hchange
        · rename_i hoption
          cases hchange
          exact .change (c := .logSessions) rfl (if_pos hoption) hknown
        · cases hchange

/-- Policies are what instructions make of their headers. -/
structure Records (policies : List Policy) (is : List Instruction) : Prop where
  /-- There is one policy for each header, with the changes to its number. -/
  policies_eq : policies = (headersOf is).map fun h => h.after (changesTo (numeralValue h.id) is)
  /-- There are changes to these policies only. -/
  known : ∀ c ∈ changesOf is, c.1 ∈ policies.map (·.id)

/-- There are no changes to a policy that is not there. -/
theorem Records.changesTo_eq_nil {policies : List Policy} (h : Records policies is)
    (hid : id ∉ policies.map (·.id)) : changesTo id is = [] := by
  refine valuesFor_eq_nil ?_
  rintro c hc rfl
  exact hid (h.known c hc)

/-- **Policies stay the records of instructions when one more is followed.** -/
theorem Revises.records {before after : List Policy} (h : Revises before i after)
    (hbefore : Records before is) : Records after (is ++ [i]) := by
  obtain ⟨heq, hknown⟩ := hbefore
  cases h with
  | @creation h hheader hchange hfree =>
      -- The new policy begins without changes, as there were none to a policy that was not there.
      have hnone := Records.changesTo_eq_nil ⟨heq, hknown⟩ hfree
      refine ⟨?_, ?_⟩
      · simp only [headersOf_append_singleton, hheader, changesTo_append_singleton_of_none hchange,
          Option.toList_some, List.map_append, List.map_cons, List.map_nil, hnone, ← heq]
      · intro c hc
        rw [changesOf_append_singleton, hchange, Option.toList_none, List.append_nil] at hc
        rw [List.map_append]
        exact List.mem_append_left _ (hknown c hc)
  | @change id c hheader hchange hid =>
      have hids : (before.map fun p => if p.id = id then c.apply p else p).map (·.id)
          = before.map (·.id) := by
        rw [List.map_map]
        refine List.map_congr_left fun p _ => ?_
        rw [Function.comp_apply, apply_ite Policy.id, PolicyChange.id_apply, ite_self]
      refine ⟨?_, ?_⟩
      · rw [headersOf_append_singleton, hheader, Option.toList_none, List.append_nil]
        -- Only the left side, as the changes on the right have grown.
        conv_lhs => rw [heq]
        rw [List.map_map]
        refine List.map_congr_left fun h _ => ?_
        rw [changesTo_append_singleton hchange, Function.comp_apply, id_after]
        by_cases hheaderId : (numeralValue h.id : Int) = id
        · rw [if_pos hheaderId, if_pos hheaderId.symm, after_append_singleton]
        · rw [if_neg hheaderId, if_neg (Ne.symm hheaderId), List.append_nil]
      · intro c' hc
        rw [changesOf_append_singleton, hchange, Option.toList_some, List.mem_append,
          List.mem_singleton] at hc
        rw [hids]
        rcases hc with hc | rfl
        · exact hknown _ hc
        · exact hid
  | nothing hheader hchange =>
      refine ⟨?_, ?_⟩
      · simp only [headersOf_append_singleton, hheader, changesTo_append_singleton_of_none hchange,
          Option.toList_none, List.append_nil, ← heq]
      · rw [changesOf_append_singleton, hchange, Option.toList_none, List.append_nil]
        exact hknown

/-! ## Accepted lines -/

/-- **Accepted lines make one policy for each header, in order, with the changes to its number.** -/
theorem policies_ofLines {services : Catalog} {resolver : Option Resolver} {texts : List String}
    {c : Configuration} (h : Configuration.ofLines services resolver texts = .ok c) :
    c.policies = (headersOf (instructionsOf texts)).map fun header =>
      header.after (changesTo (numeralValue header.id) (instructionsOf texts)) := by
  obtain ⟨s, rfl, hrecords⟩ := ofLines_induction
    (P := fun told s => Records s.configuration.policies (told.map Prod.snd))
    ⟨rfl, fun _ hc => absurd hc List.not_mem_nil⟩
    (fun told number i s₁ s₂ hrecords hfollows => by
      rw [List.map_append]
      exact hfollows.revises.records hrecords) h
  exact hrecords.policies_eq

/-- Blocks and flags that alternate reach the policies of their numbers, however these are
spelled. -/
theorem policies_of_interleaved_blocks :
    ∃ c, Configuration.ofLines .predefined none
        ["set policy id 1 from \"a\" to \"b\" \"x\" \"y\" \"z\" permit",
          "set policy id 2 name \"n\" from \"b\" to \"a\" \"x\" \"y\" \"z\" deny log",
          "set policy id 1", "set src-address \"k\"", "set log session-init", "exit",
          "set policy id 02", "set service \"s\"", "exit", "set policy id 2 disable",
          "set policy id 001", "set src-address \"k\"", "exit",
          "set policy id 2 application \"f\"", "set policy id 1 application \"f\"",
          "set policy id 1 application"] = .ok c ∧
      c.policies =
        [{ id := 1, fromZone := "a", toZone := "b", sources := ["x", "k", "k"],
           destinations := ["y"], services := ["z"], logInit := true },
          { id := 2, fromZone := "b", toZone := "a", name := "n", disabled := true,
            sources := ["x"], destinations := ["y"], services := ["z", "s"], application := "f",
            action := .deny, log := true }] := by
  generalize htexts :
    ["set policy id 1 from \"a\" to \"b\" \"x\" \"y\" \"z\" permit",
      "set policy id 2 name \"n\" from \"b\" to \"a\" \"x\" \"y\" \"z\" deny log",
      "set policy id 1", "set src-address \"k\"", "set log session-init", "exit",
      "set policy id 02", "set service \"s\"", "exit", "set policy id 2 disable",
      "set policy id 001", "set src-address \"k\"", "exit",
      "set policy id 2 application \"f\"", "set policy id 1 application \"f\"",
      "set policy id 1 application"] = texts
  have hok : (Configuration.ofLines .predefined none texts).isOk := by
    rw [← htexts]
    decide +kernel
  rcases hrun : Configuration.ofLines .predefined none texts with e | c
  · rw [hrun] at hok
    cases hok
  · refine ⟨c, rfl, ?_⟩
    rw [policies_ofLines hrun, ← htexts]
    decide +kernel

end ZoneFirewall
