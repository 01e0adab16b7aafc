import ZoneFirewall.Proofs.Acceptance
import ZoneFirewall.Proofs.Rearrangement

/-!
# Policies by number

A reader that keeps an index of its policies, from numbers to places in the list, need not search
for them. It adds policies to the list and to the index, and changes them in the list at the places
that the index gives, line by line and whether or not a line fails later on. So the two have to stay
in step.

* `IndexedReading`: such a reader. `IndexedReading.IsIndexed`: its index gives the place of each
  policy, and nothing else.
* `IsIndexed.filter_eq`: **then a number has the one policy that is found by it, or none.**
* `IndexedReading.Mirrors`: that an attempt with an index goes in step with one without.
  `IsIndexed.mirrors_step`, `IsIndexed.linesFrom`: **each line, and each run of lines, keeps the
  index right and comes to what it comes to without an index.**
* `LeadsTo.allValid`, `AllValid.linesFrom`: lines keep policies valid.
* `IndexedReading.reads`: the state after some runs, of which any may fail. `policies_of_reads`:
  **its policies have different numbers, are valid and are found by their numbers.**
-/

namespace ZoneFirewall

open Text Attempt

/-! ## Readers with an index -/

/-- A reading that finds its policies by an index. -/
structure IndexedReading where
  /-- The state otherwise. -/
  reading : Reading
  /-- The places of policies in the list, by their numbers. -/
  index : Table Int Nat := .empty

namespace IndexedReading

/-- The policies in the order of their creation. -/
def policies (s : IndexedReading) : List Policy := s.reading.configuration.policies

/-- The state with other policies. -/
def withPolicies (s : IndexedReading) (policies : List Policy) : IndexedReading :=
  { s with reading := { s.reading with
      configuration := { s.reading.configuration with policies := policies } } }

/-- The policy with a number. -/
def policy? (s : IndexedReading) (id : Int) : Option Policy :=
  (s.index.get? id).bind fun i => s.policies[i]?

/-- The state with one more policy. -/
def addPolicy (s : IndexedReading) (p : Policy) : IndexedReading :=
  { s.withPolicies (s.policies ++ [p]) with index := s.index.insert p.id s.policies.length }

/-- The state with a change to the policy of a number, in its place. -/
def onPolicy (s : IndexedReading) (id : Int) (change : Policy → Policy) : IndexedReading :=
  match s.index.get? id with
  | none => s
  | some i => s.withPolicies (s.policies.modify i change)

/-- What is done without looking at the index. -/
def onReading {α : Type} (x : Attempt Reading α) : Attempt IndexedReading α :=
  ExceptT.mk fun s => ((x.runOn s.reading).1, { s with reading := (x.runOn s.reading).2 })

/-- The creation of a policy. -/
def policyCreate (h : PolicyHeader) : Attempt IndexedReading Unit := do
  let id ← readNumber h.id
  if ((← get).policy? id).isSome then throw (.policyDefinedTwice id)
  else
    let natPort ← (h.natPort.mapM readNumber : Except ReadFault (Option Int))
    if (Reading.policyOf h id natPort).isValid then
      modify (·.addPolicy (Reading.policyOf h id natPort))
    else throw (.invalidPolicy (Reading.policyOf h id natPort))

/-- The number of a policy that has to be there already. -/
def knownPolicy (text : String) : Attempt IndexedReading Int := do
  let id ← readNumber text
  if ((← get).policy? id).isSome then return id else throw (.policyNotFound id)

/-- A flag line. -/
def policyFlag (text : String) (flag : PolicyFlag) (value : Option String) :
    Attempt IndexedReading Unit := do
  let id ← knownPolicy text
  modify (·.onPolicy id (Reading.flagChange flag value))

/-- What a line of a block does. -/
def blockLine (id : Int) : BlockLine → Attempt IndexedReading Unit
  | .member kind name => modify (·.onPolicy id (Reading.memberChange kind name))
  | .log option =>
    if option = Reading.sessionLogOption then
      modify (·.onPolicy id fun p => { p with logInit := true })
    else throw (.unsupportedLogOption option)

/-- What a directive does; it comes to where the next line stands. -/
def directive (resolver : Option Resolver) (line : Nat) :
    Directive → Attempt IndexedReading Place
  | .policyCreate header => do
    policyCreate header
    return .topLevel
  | .policyBlock id => return .block (← knownPolicy id) line
  | .policyFlag id flag value => do
    policyFlag id flag value
    return .topLevel
  | d => onReading (Reading.directive resolver line d)

/-- What a line does that stands at a place; it comes to where the next one stands. -/
def step (resolver : Option Resolver) (line : Nat) (place : Place) (text : String) :
    Attempt IndexedReading Place :=
  let text := trim text
  match place with
  | .topLevel =>
    if text = "" then return .topLevel
    else
      match Directive.classify text with
      | .error fault => throw (.directive fault)
      | .ok none => return .topLevel
      | .ok (some d) => directive resolver line d
  | .block id openedAt =>
    if text = blockEnd then return .topLevel
    else if text = "" then return .block id openedAt
    else
      match BlockLine.classify text with
      | .error fault => throw (.directive fault)
      | .ok b => do
        blockLine id b
        return .block id openedAt

/-- What lines do of which the first has a number and stands at a place: the state at their end, or
the one that the line leaves which stops the reading. -/
def linesFrom (resolver : Option Resolver) (s : IndexedReading) (place : Place) (number : Nat) :
    List String → IndexedReading × Option ReadError
  | [] =>
    match place with
    | .topLevel => (s, none)
    | .block id openedAt => (s, some ⟨openedAt, .blockNotClosed id⟩)
  | text :: rest =>
    match (step resolver number place text).runOn s with
    | (.error fault, left) => (left, some ⟨number, fault⟩)
    | (.ok next, left) => linesFrom resolver left next (number + 1) rest

/-- What lines do, numbered from 1 and beginning at the top level. -/
def lines (s : IndexedReading) (resolver : Option Resolver) (texts : List String) :
    IndexedReading × Option ReadError :=
  linesFrom resolver s .topLevel 1 texts

/-- The index gives the place of each policy, and nothing else. -/
def IsIndexed (s : IndexedReading) : Prop :=
  ∀ id i, s.index.get? id = some i ↔ (s.policies[i]?).map (·.id) = some id

variable {s : IndexedReading} {resolver : Option Resolver} {number : Nat} {place : Place}
  {text : String} {texts : List String}

/-! ## What the index is good for -/

/-- Policies at two places have different numbers. -/
theorem IsIndexed.nodup (h : s.IsIndexed) : (s.policies.map (·.id)).Nodup := by
  rw [List.Nodup, List.pairwise_map, List.pairwise_iff_getElem]
  intro i j hi hj hlt hsame
  have hplaceI : s.index.get? s.policies[i].id = some i := by
    rw [h, List.getElem?_eq_getElem hi, Option.map_some]
  have hplaceJ : s.index.get? s.policies[i].id = some j := by
    rw [h, List.getElem?_eq_getElem hj, Option.map_some, hsame]
  rw [hplaceI, Option.some_inj] at hplaceJ
  omega

/-- **A number has the one policy that is found by it, or none.** -/
theorem IsIndexed.filter_eq (h : s.IsIndexed) (id : Int) :
    s.policies.filter (·.id = id) = (s.policy? id).toList := by
  rcases hindex : s.index.get? id with _ | i
  · rw [policy?, hindex, Option.bind_none, Option.toList_none, List.filter_eq_nil_iff]
    intro p hp hid
    obtain ⟨i, hi⟩ := List.mem_iff_getElem?.1 hp
    have hget : s.index.get? id = some i := by
      rw [h, hi, Option.map_some, of_decide_eq_true hid]
    rw [hindex] at hget
    cases hget
  · obtain ⟨p, hp, hid⟩ := Option.map_eq_some_iff.1 ((h id i).1 hindex)
    rw [policy?, hindex, Option.bind_some, hp, Option.toList_some]
    -- The policies before and after this one have other numbers.
    obtain ⟨before, after, hsplit⟩ := List.append_of_mem (List.mem_of_getElem? hp)
    have hnodup := h.nodup
    rw [hsplit, List.map_append, List.map_cons, List.nodup_append, List.nodup_cons, hid] at hnodup
    obtain ⟨-, ⟨hafter, -⟩, hbefore⟩ := hnodup
    have hfilterBefore : before.filter (·.id = id) = [] := by
      rw [List.filter_eq_nil_iff]
      intro q hq hsame
      exact hbefore q.id (List.mem_map_of_mem hq) id List.mem_cons_self (of_decide_eq_true hsame)
    have hfilterAfter : after.filter (·.id = id) = [] := by
      rw [List.filter_eq_nil_iff]
      intro q hq hsame
      exact hafter (List.mem_map.2 ⟨q, hq, of_decide_eq_true hsame⟩)
    rw [hsplit, List.filter_append, List.filter_cons_of_pos (by simpa using hid), hfilterBefore,
      hfilterAfter, List.nil_append]

/-- The policy that is found by a number is the one that is found in the list. -/
theorem IsIndexed.policy?_eq (h : s.IsIndexed) (id : Int) :
    s.policy? id = s.reading.configuration.policy? id := by
  have hfound : s.policies.find? (·.id = id) = s.policy? id := by
    rw [← List.head?_filter, h.filter_eq]
    rcases s.policy? id with _ | p
    · rfl
    · rfl
  exact hfound.symm

/-! ## What keeps the index right -/

/-- A policy whose number is not taken may be added. -/
theorem IsIndexed.addPolicy (h : s.IsIndexed) {p : Policy}
    (hp : p.id ∉ s.policies.map (·.id)) : (s.addPolicy p).IsIndexed := by
  intro id i
  have hpolicies : (s.addPolicy p).policies = s.policies ++ [p] := rfl
  have hindex : (s.addPolicy p).index = s.index.insert p.id s.policies.length := rfl
  have hfree : ∀ j, s.index.get? p.id ≠ some j := by
    intro j hj
    obtain ⟨q, hq, hid⟩ := Option.map_eq_some_iff.1 ((h _ _).1 hj)
    exact hp (List.mem_map.2 ⟨q, List.mem_of_getElem? hq, hid⟩)
  have hplace : ∀ j, s.index.get? id = some j → j < s.policies.length := by
    intro j hj
    obtain ⟨q, hq, -⟩ := Option.map_eq_some_iff.1 ((h _ _).1 hj)
    exact (List.getElem?_eq_some_iff.1 hq).1
  rw [hpolicies, hindex, Table.get?_insert]
  rcases Nat.lt_trichotomy i s.policies.length with hlt | rfl | hgt
  · rw [List.getElem?_append_left hlt, ← h]
    by_cases hid : p.id = id
    · have hne : s.policies.length ≠ i := by omega
      rw [if_pos hid, ← hid, Option.some_inj]
      exact iff_of_false hne (hfree i)
    · rw [if_neg hid]
  · rw [List.getElem?_concat_length, Option.map_some, Option.some_inj]
    by_cases hid : p.id = id
    · rw [if_pos hid]
      exact iff_of_true rfl hid
    · rw [if_neg hid]
      exact iff_of_false (fun hget => Nat.lt_irrefl _ (hplace _ hget)) hid
  · have hnone : (s.policies ++ [p])[i]? = none := by
      rw [List.getElem?_eq_none_iff, List.length_append, List.length_singleton]
      omega
    rw [hnone]
    refine iff_of_false ?_ nofun
    split
    · intro hsome
      rw [Option.some_inj] at hsome
      omega
    · intro hget
      have hlt := hplace i hget
      omega

/-- A policy is in the place of its number, and no other policy has that number. -/
theorem IsIndexed.id_eq_iff (h : s.IsIndexed) {id : Int} {j : Nat} {p : Policy}
    (hp : s.policies[j]? = some p) : p.id = id ↔ s.index.get? id = some j := by
  rw [h, hp, Option.map_some, Option.some_inj]

/-- A change at the place of a number is a change to the policy of the number. -/
theorem IsIndexed.reading_onPolicy (h : s.IsIndexed) (id : Int) (change : Policy → Policy) :
    (s.onPolicy id change).reading = s.reading.onPolicy id change := by
  unfold onPolicy Reading.onPolicy Configuration.withPolicy
  rcases hindex : s.index.get? id with _ | i
  · have hmap : s.policies.map (fun p => if p.id = id then change p else p) = s.policies := by
      refine (List.map_congr_left fun p hp => ?_).trans (List.map_id' _)
      obtain ⟨j, hj⟩ := List.mem_iff_getElem?.1 hp
      refine if_neg fun hid => ?_
      rw [h.id_eq_iff hj, hindex] at hid
      cases hid
    exact congrArg (fun ps => (s.withPolicies ps).reading) hmap.symm
  · have hmap : s.policies.modify i change
        = s.policies.map fun p => if p.id = id then change p else p := by
      apply List.ext_getElem?
      intro j
      rw [List.getElem?_modify, List.getElem?_map]
      rcases hp : s.policies[j]? with _ | p
      · rfl
      · have hplace : i = j ↔ p.id = id := by
          rw [h.id_eq_iff hp, hindex, Option.some_inj]
        simp only [Option.map_some, Option.map_eq_map, hplace]
    exact congrArg (fun ps => (s.withPolicies ps).reading) hmap

/-- A change to a policy leaves the index as it is. -/
theorem index_onPolicy (id : Int) (change : Policy → Policy) :
    (s.onPolicy id change).index = s.index := by
  unfold onPolicy
  split
  · rfl
  · rfl

/-- A policy may be changed in all but its number. -/
theorem IsIndexed.onPolicy (h : s.IsIndexed) {change : Policy → Policy}
    (hchange : ∀ p, (change p).id = p.id) (id : Int) : (s.onPolicy id change).IsIndexed := by
  have hids : (s.onPolicy id change).policies.map (·.id) = s.policies.map (·.id) := by
    rw [policies, h.reading_onPolicy]
    exact Reading.map_id_onPolicy hchange
  intro n i
  rw [index_onPolicy, h, ← List.getElem?_map, ← List.getElem?_map, hids]

/-! ## Attempts in step -/

/-- From a state, an attempt with an index comes to what one without comes to, and leaves the same
state with the index right, whether it fails or not. -/
def Mirrors {α : Type} (s : IndexedReading) (x : Attempt IndexedReading α)
    (y : Attempt Reading α) : Prop :=
  (x.runOn s).2.IsIndexed ∧ ((x.runOn s).1, (x.runOn s).2.reading) = y.runOn s.reading

section mirrors

variable {α β : Type} {x : Attempt IndexedReading α} {y : Attempt Reading α}
  {f : α → Attempt IndexedReading β} {g : α → Attempt Reading β}

/-- A result is given with and without an index. -/
theorem IsIndexed.mirrors_pure (h : s.IsIndexed) (a : α) : Mirrors s (pure a) (pure a) := ⟨h, rfl⟩

/-- A fault is raised with and without an index. -/
theorem IsIndexed.mirrors_throw (h : s.IsIndexed) (fault : ReadFault) :
    Mirrors s (throw fault : Attempt IndexedReading α) (throw fault) := ⟨h, rfl⟩

/-- A change may be made in step if the index is right after it. -/
theorem mirrors_modify {change : IndexedReading → IndexedReading} {change' : Reading → Reading}
    (h : (change s).IsIndexed) (hsame : (change s).reading = change' s.reading) :
    Mirrors s (modify change) (modify change') :=
  ⟨h, congrArg (Prod.mk (Except.ok ())) hsame⟩

/-- What does not look at the state is the same with and without an index. -/
theorem IsIndexed.mirrors_lift_bind (h : s.IsIndexed) {r : Except ReadFault α}
    (hrest : ∀ a, Mirrors s (f a) (g a)) : Mirrors s (liftM r >>= f) (liftM r >>= g) := by
  cases r with
  | error fault => exact ⟨h, rfl⟩
  | ok a => exact hrest a

/-- The states may be looked at. -/
theorem mirrors_get_bind {f : IndexedReading → Attempt IndexedReading β}
    {g : Reading → Attempt Reading β} (h : Mirrors s (f s) (g s.reading)) :
    Mirrors s (MonadState.get >>= f) (MonadState.get >>= g) := h

/-- Of two attempts the same one is made with and without an index. -/
theorem Mirrors.ite {p : Prop} [Decidable p] {x' : Attempt IndexedReading α}
    {y' : Attempt Reading α} (h : p → Mirrors s x y) (h' : ¬ p → Mirrors s x' y') :
    Mirrors s (if p then x else x') (if p then y else y') := by
  by_cases hp : p
  · rw [if_pos hp, if_pos hp]
    exact h hp
  · rw [if_neg hp, if_neg hp]
    exact h' hp

/-- Attempts in step may be gone on with in step. -/
theorem Mirrors.bind (h : Mirrors s x y)
    (hrest : ∀ a t, x.runOn s = (.ok a, t) → t.IsIndexed → Mirrors t (f a) (g a)) :
    Mirrors s (x >>= f) (y >>= g) := by
  obtain ⟨hindexed, hsame⟩ := h
  unfold Mirrors
  rw [runOn_bind, runOn_bind, ← hsame]
  rcases hx : x.runOn s with ⟨fault | a, t⟩
  · rw [hx] at hindexed
    exact ⟨hindexed, rfl⟩
  · rw [hx] at hindexed
    exact hrest a t hx hindexed

/-- What leaves the policies as they are needs no index. -/
theorem IsIndexed.mirrors_onReading (h : s.IsIndexed)
    (hpolicies : (y.runOn s.reading).2.configuration.policies = s.policies) :
    Mirrors s (onReading y) y := by
  refine ⟨fun id i => ?_, rfl⟩
  show s.index.get? id = some i ↔
    ((y.runOn s.reading).2.configuration.policies[i]?).map (·.id) = some id
  rw [h, hpolicies]

end mirrors

/-! ## Directives and lines -/

/-- A policy is created in step. -/
theorem IsIndexed.mirrors_policyCreate (h : s.IsIndexed) (header : PolicyHeader) :
    Mirrors s (policyCreate header) (Reading.policyCreate header) := by
  refine h.mirrors_lift_bind fun id => mirrors_get_bind ?_
  rw [h.policy?_eq]
  refine .ite (fun _ => h.mirrors_throw _) fun hfree => h.mirrors_lift_bind fun natPort =>
    .ite (fun _ => mirrors_modify (h.addPolicy ?_) rfl) fun _ => h.mirrors_throw _
  -- only here is a place given out, and the look-up has found that the number has none
  rw [Configuration.policy?, Reading.find?_isSome_iff] at hfree
  exact hfree

/-- A policy is looked for in step. -/
theorem IsIndexed.mirrors_knownPolicy (h : s.IsIndexed) (text : String) :
    Mirrors s (knownPolicy text) (Reading.knownPolicy text) := by
  refine h.mirrors_lift_bind fun id => mirrors_get_bind ?_
  rw [h.policy?_eq]
  exact .ite (fun _ => h.mirrors_pure _) fun _ => h.mirrors_throw _

/-- A policy gets a flag in step. -/
theorem IsIndexed.mirrors_policyFlag (h : s.IsIndexed) (text : String) (flag : PolicyFlag)
    (value : Option String) :
    Mirrors s (policyFlag text flag value) (Reading.policyFlag text flag value) :=
  (h.mirrors_knownPolicy text).bind fun id _ _ ht =>
    mirrors_modify (ht.onPolicy (Reading.id_flagChange flag value) id) (ht.reading_onPolicy id _)

/-- A line of a block changes the block's policy in step. -/
theorem IsIndexed.mirrors_blockLine (h : s.IsIndexed) (id : Int) (b : BlockLine) :
    Mirrors s (blockLine id b) (Reading.blockLine id b) := by
  cases b with
  | member kind name =>
      have hid : ∀ p, (Reading.memberChange kind name p).id = p.id := fun p =>
        Reading.id_of_blockChange (l := .member kind name) rfl p
      exact mirrors_modify (h.onPolicy hid id) (h.reading_onPolicy id _)
  | log option =>
      have hid : ∀ p : Policy, ({ p with logInit := true } : Policy).id = p.id := fun _ => rfl
      exact .ite (fun _ => mirrors_modify (h.onPolicy hid id) (h.reading_onPolicy id _))
        fun _ => h.mirrors_throw _

/-- A directive that is not about policies leaves them as they are, whether it fails or not. -/
theorem policies_runOn_directive {d : Directive} (hd : Part.policies ≠ d.part) (t : Reading) :
    ((Reading.directive resolver number d).runOn t).2.configuration.policies
      = t.configuration.policies := by
  rcases hrun : (Reading.directive resolver number d).runOn t with ⟨fault | place, left⟩
  · rw [Reading.isWhole_directive resolver number d t fault left hrun]
  · exact ((Reading.directive_eq_ok.1 (outcome_eq_ok.2 hrun)).agree hd).symm

/-- **A directive comes to what it comes to without an index.** -/
theorem IsIndexed.mirrors_directive (h : s.IsIndexed) (d : Directive) :
    Mirrors s (directive resolver number d) (Reading.directive resolver number d) := by
  cases d with
  | policyCreate header =>
      exact (h.mirrors_policyCreate header).bind fun _ _ _ ht => ht.mirrors_pure _
  | policyBlock text =>
      exact (h.mirrors_knownPolicy text).bind fun _ _ _ ht => ht.mirrors_pure _
  | policyFlag text flag value =>
      exact (h.mirrors_policyFlag text flag value).bind fun _ _ _ ht => ht.mirrors_pure _
  -- the other families change no policy, so that the index may stay as it is
  | _ => exact h.mirrors_onReading (policies_runOn_directive (by simp [Directive.part]) s.reading)

/-- **A line comes to what it comes to without an index.** -/
theorem IsIndexed.mirrors_step (h : s.IsIndexed) :
    Mirrors s (step resolver number place text) (Reading.step resolver number place text) := by
  cases place with
  | topLevel =>
      refine .ite (fun _ => h.mirrors_pure _) fun _ => ?_
      rcases Directive.classify (trim text) with fault | _ | d
      · exact h.mirrors_throw _
      · exact h.mirrors_pure _
      · exact h.mirrors_directive d
  | block id openedAt =>
      refine .ite (fun _ => h.mirrors_pure _) fun _ => .ite (fun _ => h.mirrors_pure _) fun _ => ?_
      rcases BlockLine.classify (trim text) with fault | b
      · exact h.mirrors_throw _
      · exact (h.mirrors_blockLine id b).bind fun _ _ _ ht => ht.mirrors_pure _

/-- **Lines come to what they come to without an index, and keep it right**, whether or not one of
them fails. -/
theorem IsIndexed.linesFrom (h : s.IsIndexed) (resolver : Option Resolver) (place : Place)
    (number : Nat) (texts : List String) :
    (linesFrom resolver s place number texts).1.IsIndexed ∧
      ((linesFrom resolver s place number texts).1.reading,
        (linesFrom resolver s place number texts).2)
        = Reading.linesFrom resolver s.reading place number texts := by
  induction texts generalizing s place number with
  | nil =>
      cases place with
      | topLevel => exact ⟨h, rfl⟩
      | block id openedAt => exact ⟨h, rfl⟩
  | cons text texts ih =>
      obtain ⟨hindexed, hsame⟩ : Mirrors s (step resolver number place text)
          (Reading.step resolver number place text) := h.mirrors_step
      rw [IndexedReading.linesFrom, Reading.linesFrom, ← hsame]
      rcases hrun : (step resolver number place text).runOn s with ⟨fault | next, left⟩
      · rw [hrun] at hindexed
        exact ⟨hindexed, rfl⟩
      · rw [hrun] at hindexed
        exact ih hindexed next (number + 1)

end IndexedReading

/-! ## Valid policies -/

/-- What a valid policy has. -/
theorem Policy.isValid_iff (p : Policy) : p.isValid ↔ 0 < p.id ∧ p.fromZone ≠ "" ∧ p.toZone ≠ "" ∧
    p.sources ≠ [] ∧ p.destinations ≠ [] ∧ p.services ≠ [] := by
  simp [Policy.isValid, and_assoc]

namespace Reading

variable {resolver : Option Resolver} {number : Nat} {s s' : Reading} {place place' : Place}
  {text : String}

/-- A flag keeps a policy valid. -/
theorem isValid_flagChange (flag : PolicyFlag) (value : Option String) {p : Policy}
    (h : p.isValid) : (flagChange flag value p).isValid := by
  cases flag with
  | disable => exact h
  | application => exact h

/-- So does a line of its block: names are only added. -/
theorem isValid_of_blockChange {l : BlockLine} {change : Policy → Policy}
    (h : blockChange l = .ok change) {p : Policy} (hp : p.isValid) : (change p).isValid := by
  rcases l with ⟨kind, name⟩ | option
  · cases h
    rw [Policy.isValid_iff] at hp ⊢
    obtain ⟨hid, hfrom, hto, hsources, hdestinations, hservices⟩ := hp
    have hlonger : ∀ names : List String, names ++ [name] ≠ [] := by simp
    cases kind with
    | service => exact ⟨hid, hfrom, hto, hsources, hdestinations, hlonger _⟩
    | destination => exact ⟨hid, hfrom, hto, hsources, hlonger _, hservices⟩
    | source => exact ⟨hid, hfrom, hto, hlonger _, hdestinations, hservices⟩
  · simp only [blockChange] at h
    split at h
    · cases h
      exact hp
    · cases h

/-- All policies are valid. -/
def AllValid (s : Reading) : Prop := ∀ p ∈ s.configuration.policies, p.isValid

/-- A change that keeps a policy valid keeps all of them valid. -/
theorem AllValid.onPolicy (h : s.AllValid) {change : Policy → Policy}
    (hchange : ∀ p, p.isValid → (change p).isValid) (id : Int) :
    (s.onPolicy id change).AllValid := by
  intro q hq
  obtain ⟨p, hp, rfl⟩ := List.mem_map.1 hq
  split
  · exact hchange p (h p hp)
  · exact h p hp

/-- **A line keeps policies valid.** -/
theorem LeadsTo.allValid (h : LeadsTo resolver number s text place place' s') (hs : s.AllValid) :
    s'.AllValid := by
  cases h with
  | passedOver => exact hs
  | blockEnd => exact hs
  | blank => exact hs
  | blockLine _ _ hchange => exact hs.onPolicy (fun p => isValid_of_blockChange hchange) _
  | @directive d _ _ _ hdoes =>
      by_cases hpart : Part.policies = d.part
      · cases hdoes with
        | policyCreate hp =>
            obtain ⟨id, natPort, -, -, -, hvalid, rfl⟩ := newPolicy_eq_ok.1 hp
            intro q hq
            rcases List.mem_append.1 hq with hq | hq
            · exact hs q hq
            · rw [List.mem_singleton.1 hq]
              exact hvalid
        | policyBlock => exact hs
        | policyFlag => exact hs.onPolicy (fun p => isValid_flagChange _ _) _
        | _ => cases hpart
      · have hpolicies : s.configuration.policies = s'.configuration.policies :=
          hdoes.agree hpart
        intro q hq
        rw [← hpolicies] at hq
        exact hs q hq

/-- Lines keep policies valid, whether or not one of them fails. -/
theorem AllValid.linesFrom (h : s.AllValid) (place : Place) (number : Nat) (texts : List String) :
    (linesFrom resolver s place number texts).1.AllValid := by
  induction texts generalizing s place number with
  | nil =>
      cases place with
      | topLevel => exact h
      | block id openedAt => exact h
  | cons text texts ih =>
      rw [linesFrom_cons]
      rcases hstep : outcome (step resolver number place text) s with fault | ⟨place', s'⟩
      · exact h
      · exact ih ((step_eq_ok.1 hstep).allValid h) place' (number + 1)

/-- The state after some runs of lines over a catalog. A run that fails leaves what it has done. -/
def reads (services : Catalog) (runs : List (Option Resolver × List String)) : Reading :=
  runs.foldl (fun s r => (s.lines r.1 r.2).1) { configuration := { services } }

end Reading

/-! ## Many runs -/

/-- The state of a reader with an index after some runs of lines over a catalog. A run that fails
leaves what it has done. -/
def IndexedReading.reads (services : Catalog) (runs : List (Option Resolver × List String)) :
    IndexedReading :=
  runs.foldl (fun s r => (s.lines r.1 r.2).1) { reading := { configuration := { services } } }

/-- A further run goes on with the state that the others left, index included. -/
theorem IndexedReading.reads_append_singleton (services : Catalog)
    (runs : List (Option Resolver × List String)) (r : Option Resolver × List String) :
    IndexedReading.reads services (runs ++ [r])
      = ((IndexedReading.reads services runs).lines r.1 r.2).1 := by
  rw [IndexedReading.reads, List.foldl_append]
  rfl

/-- So it does without an index. -/
theorem Reading.reads_append_singleton (services : Catalog)
    (runs : List (Option Resolver × List String)) (r : Option Resolver × List String) :
    Reading.reads services (runs ++ [r]) = ((Reading.reads services runs).lines r.1 r.2).1 := by
  rw [Reading.reads, List.foldl_append]
  rfl

/-- After some runs the index is right, and the state is what it is without an index. -/
theorem isIndexed_reads (services : Catalog) (runs : List (Option Resolver × List String)) :
    (IndexedReading.reads services runs).IsIndexed ∧
      (IndexedReading.reads services runs).reading = Reading.reads services runs := by
  induction runs using List.reverseRecOn with
  | nil => exact ⟨fun id i => iff_of_false nofun nofun, rfl⟩
  | append_singleton runs r ih =>
      obtain ⟨hindexed, hreading⟩ := ih
      obtain ⟨hnext, hlines⟩ := hindexed.linesFrom r.1 .topLevel 1 r.2
      rw [IndexedReading.reads_append_singleton, Reading.reads_append_singleton, ← hreading]
      exact ⟨hnext, congrArg Prod.fst hlines⟩

/-- After some runs all policies are valid. -/
theorem allValid_reads (services : Catalog) (runs : List (Option Resolver × List String)) :
    (Reading.reads services runs).AllValid := by
  induction runs using List.reverseRecOn with
  | nil => exact fun p hp => absurd hp List.not_mem_nil
  | append_singleton runs r ih =>
      rw [Reading.reads_append_singleton]
      exact ih.linesFrom .topLevel 1 r.2

/-- **Policies and their index after any runs**, of which any may fail. The policies are those that
there are without an index. They have different numbers, which are positive, zones, and at least one
source, destination and service. A number finds the one policy that has it, as it is by now, or
none if none has it. -/
theorem policies_of_reads (services : Catalog) (runs : List (Option Resolver × List String)) :
    (IndexedReading.reads services runs).reading = Reading.reads services runs ∧
    ((IndexedReading.reads services runs).policies.map (·.id)).Nodup ∧
    (∀ p ∈ (IndexedReading.reads services runs).policies,
      0 < p.id ∧ p.fromZone ≠ "" ∧ p.toZone ≠ "" ∧ p.sources ≠ [] ∧ p.destinations ≠ [] ∧
        p.services ≠ []) ∧
    ∀ id, (IndexedReading.reads services runs).policies.filter (·.id = id)
        = ((IndexedReading.reads services runs).policy? id).toList ∧
      (IndexedReading.reads services runs).policy? id
        = (Reading.reads services runs).configuration.policy? id := by
  obtain ⟨hindexed, hreading⟩ := isIndexed_reads services runs
  have hvalid := allValid_reads services runs
  refine ⟨hreading, hindexed.nodup, ?_, ?_⟩
  · intro p hp
    rw [IndexedReading.policies, hreading] at hp
    exact (Policy.isValid_iff p).1 (hvalid p hp)
  · intro id
    refine ⟨hindexed.filter_eq id, ?_⟩
    rw [hindexed.policy?_eq, hreading]

end ZoneFirewall
