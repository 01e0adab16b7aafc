/-!
# Groups within groups

Names of addresses and of services may stand for groups, whose members are again names. Expanding
a name walks down through its groups, depth first and in member order, to the leaves. A group that
is met again while it is still being expanded is a cycle, and stops the walk.

* `Meaning`, `Hierarchy`: what a name stands for, and finitely many groups.
* `Hierarchy.expand`: what a name comes to, with a step of one's own (`merge`) at the end of each
  group; `Hierarchy.Failure` when it comes to nothing.
* `Hierarchy.walk`: the same walk as a list of the names entered and the groups completed.

The walk ends because the groups that are open form a chain without repetition: each step either
opens one of the finitely many others or moves on to the next member.
-/

namespace ZoneFirewall

/-- What a name stands for: a leaf with its result or error, or a group of names. -/
inductive Meaning (ν ε α : Type) where
  /-- The name is no group: its own items, or why it has none. -/
  | leaf (result : Except ε (List α))
  /-- The name is a group with these members. -/
  | group (members : List ν)

/-- Names with a meaning each, finitely many of them groups. -/
structure Hierarchy (ν ε α : Type) where
  /-- What each name stands for. -/
  meaning : ν → Meaning ν ε α
  /-- Names among which all groups are. -/
  groups : List ν
  /-- Each group is among them. -/
  mem_groups : ∀ {name members}, meaning name = .group members → name ∈ groups

namespace Hierarchy

variable {ν ε α : Type}

/-- Why a name cannot be expanded. -/
inductive Failure (ν ε : Type) where
  /-- A leaf has no items. -/
  | leaf (error : ε)
  /-- The group `name` is met again below the groups of `chain`, of which it is one. -/
  | cycle (chain : List ν) (name : ν)
  deriving DecidableEq, Repr

/-- Fewer items are of a narrower kind if one of them is only of the wider one. -/
theorem filter_length_lt {p q : ν → Bool} {x : ν} :
    ∀ {l : List ν}, (∀ a, p a → q a) → x ∈ l → q x → ¬ p x →
      (l.filter p).length < (l.filter q).length := by
  intro l hpq
  induction l with
  | nil => intro hx; cases hx
  | cons a l ih =>
    intro hx hq hp
    have hle : (l.filter p).length ≤ (l.filter q).length := by
      rw [← List.countP_eq_length_filter, ← List.countP_eq_length_filter]
      exact List.countP_mono_left fun a _ => hpq a
    rcases List.mem_cons.1 hx with rfl | hx
    · simp only [Bool.not_eq_true] at hp
      simp only [List.filter_cons, hp, hq, ite_true, Bool.false_eq_true, ite_false,
        List.length_cons]
      omega
    · have hlt := ih hx hq hp
      by_cases ha : p a
      · simp [ha, hpq a ha, hlt]
      · by_cases hqa : q a <;> simp [ha, hqa] <;> omega

variable [DecidableEq ν]

/-- How many groups are not open yet. -/
def closedCount (h : Hierarchy ν ε α) (chain : List ν) : Nat :=
  (h.groups.filter fun g => !chain.contains g).length

/-- Opening a group that was closed leaves fewer closed. -/
theorem closedCount_lt (h : Hierarchy ν ε α) {chain members : List ν} {name : ν}
    (hg : h.meaning name = .group members) (hc : name ∉ chain) :
    h.closedCount (chain ++ [name]) < h.closedCount chain := by
  refine filter_length_lt (x := name) ?_ (h.mem_groups hg) ?_ ?_
  · intro a ha
    simp only [Bool.not_eq_true', List.contains_eq_mem, decide_eq_false_iff_not, List.mem_append,
      not_or] at ha ⊢
    exact ha.1
  · simpa using hc
  · simp

/-! ## Expansion -/

mutual

/-- What a name comes to below the open groups of `chain`. -/
def expandFrom (h : Hierarchy ν ε α) (merge : List α → List α) (chain : List ν) (name : ν) :
    Except (Failure ν ε) (List α) :=
  match hm : h.meaning name with
  | .leaf (.ok items) => .ok items
  | .leaf (.error e) => .error (.leaf e)
  | .group members =>
    if hc : name ∈ chain then .error (.cycle chain name)
    else
      have := h.closedCount_lt hm hc
      (h.expandAll merge (chain ++ [name]) members).map merge
  termination_by (h.closedCount chain, 0)
  decreasing_by exact Prod.Lex.left _ _ this

/-- What several names come to one after another. -/
def expandAll (h : Hierarchy ν ε α) (merge : List α → List α) (chain : List ν) :
    List ν → Except (Failure ν ε) (List α)
  | [] => .ok []
  | name :: names => do
    let items ← h.expandFrom merge chain name
    let more ← h.expandAll merge chain names
    return items ++ more
  termination_by names => (h.closedCount chain, names.length + 1)
  decreasing_by
    · exact Prod.Lex.right _ (by simp)
    · exact Prod.Lex.right _ (by simp)

end

/-- What a name comes to, `merge` being applied to the items of each group. -/
def expand (h : Hierarchy ν ε α) (merge : List α → List α) (name : ν) :
    Except (Failure ν ε) (List α) :=
  h.expandFrom merge [] name

/-! ## The walk itself -/

/-- A step of a walk. -/
inductive Step (ν : Type) where
  /-- A name is entered. -/
  | enter (name : ν)
  /-- A group has been expanded to its end. -/
  | complete (name : ν)
  deriving DecidableEq, Repr

mutual

/-- The steps of a walk from a name below the open groups of `chain`, and whether it reaches its
end. -/
def walkFrom (h : Hierarchy ν ε α) (chain : List ν) (name : ν) : List (Step ν) × Bool :=
  match hm : h.meaning name with
  | .leaf (.ok _) => ([.enter name], true)
  | .leaf (.error _) => ([.enter name], false)
  | .group members =>
    if hc : name ∈ chain then ([.enter name], false)
    else
      have := h.closedCount_lt hm hc
      let (steps, complete) := h.walkAll (chain ++ [name]) members
      (.enter name :: steps ++ (if complete then [.complete name] else []), complete)
  termination_by (h.closedCount chain, 0)
  decreasing_by exact Prod.Lex.left _ _ this

/-- The steps of the walks from several names, up to the first that does not reach its end. -/
def walkAll (h : Hierarchy ν ε α) (chain : List ν) : List ν → List (Step ν) × Bool
  | [] => ([], true)
  | name :: names =>
    match h.walkFrom chain name with
    | (steps, false) => (steps, false)
    | (steps, true) =>
      let (more, complete) := h.walkAll chain names
      (steps ++ more, complete)
  termination_by names => (h.closedCount chain, names.length + 1)
  decreasing_by
    · exact Prod.Lex.right _ (by simp)
    · exact Prod.Lex.right _ (by simp)

end

/-- The steps of expanding a name, up to the failure if there is one. -/
def walk (h : Hierarchy ν ε α) (name : ν) : List (Step ν) := (h.walkFrom [] name).1

end Hierarchy

end ZoneFirewall
