import ZoneFirewall.Configuration.Reading
import ZoneFirewall.Proofs.Outcomes

/-!
# Attempts that fail

A fault undoes nothing: an attempt that fails after a change leaves half of what it was to do. An
attempt that first finds out all that may go wrong and changes the state only then leaves nothing
behind when it fails. Whether it is one is a matter of the order of its parts.

* `Attempt.runOn_bind`: an attempt goes on with the state that its first part leaves.
* `Attempt.Looks`: nothing is changed. `Attempt.Succeeds`: nothing fails.
* `Attempt.IsWhole`: **a fault leaves the state as it was.** `isWhole_bind`: so it is if what comes
  first only looks. `IsWhole.bind`: and if what comes last cannot fail.
  `isWhole_modify_throw_iff`: a change that comes before a fault stays.
* `Attempt.outcome`: the result and the state of an attempt that succeeds, or its fault alone.
  `IsWhole.runOn_eq`: whole attempts have nothing else to tell.
-/

namespace ZoneFirewall

namespace Attempt

variable {σ α β : Type} {x : Attempt σ α} {f : α → Attempt σ β} {s left : σ} {a : α}
  {fault : ReadFault}

/-! ## Parts of an attempt -/

/-- An attempt goes on with the state that its first part leaves; a fault of that part ends it. -/
theorem runOn_bind (x : Attempt σ α) (f : α → Attempt σ β) (s : σ) :
    runOn (x >>= f) s = match x.runOn s with
      | (.ok a, left) => (f a).runOn left
      | (.error fault, left) => (.error fault, left) := by
  show runOn (ExceptT.bind x f) s = _
  simp only [runOn, ExceptT.bind, ExceptT.run, ExceptT.mk, StateT.run, bind, StateT.bind]
  rcases (x : σ → Except ReadFault α × σ) s with ⟨_ | a, left⟩
  · rfl
  · rfl

/-! ## Looking and changing -/

/-- The attempt leaves the state as it was, whether it fails or not. -/
def Looks (x : Attempt σ α) : Prop := ∀ s, (x.runOn s).2 = s

/-- The attempt never fails. -/
def Succeeds (x : Attempt σ α) : Prop := ∀ s, ∃ a, (x.runOn s).1 = .ok a

/-- An attempt that is made as a whole or not at all: a fault leaves the state as it was. -/
def IsWhole (x : Attempt σ α) : Prop :=
  ∀ s fault left, x.runOn s = (.error fault, left) → left = s

/-- Giving a result changes nothing. -/
theorem looks_pure (a : α) : Looks (pure a : Attempt σ α) := fun _ => rfl

/-- Raising a fault changes nothing. -/
theorem looks_throw (fault : ReadFault) : Looks (throw fault : Attempt σ α) := fun _ => rfl

/-- What does not look at the state does not change it either. -/
theorem looks_lift (r : Except ReadFault α) : Looks (liftM r : Attempt σ α) := fun _ => rfl

/-- Looking at the state changes nothing. -/
theorem looks_get : Looks (MonadState.get : Attempt σ σ) := fun _ => rfl

/-- Looking further changes nothing. -/
theorem Looks.bind (h : Looks x) (hf : ∀ a, Looks (f a)) : Looks (x >>= f) := by
  intro s
  have hlooks := h s
  rw [runOn_bind]
  rcases hx : x.runOn s with ⟨_ | a, left⟩
  · rw [hx] at hlooks
    exact hlooks
  · rw [hx] at hlooks
    exact (hf a left).trans hlooks

/-- Changes do not fail. -/
theorem succeeds_modify (change : σ → σ) : Succeeds (modify change : Attempt σ Unit) := fun _ =>
  ⟨(), rfl⟩

/-- Giving a result does not fail. -/
theorem succeeds_pure (a : α) : Succeeds (pure a : Attempt σ α) := fun _ => ⟨a, rfl⟩

/-- Of parts that do not fail the whole does not fail. -/
theorem Succeeds.bind (h : Succeeds x) (hf : ∀ a, Succeeds (f a)) : Succeeds (x >>= f) := by
  intro s
  obtain ⟨a, ha⟩ := h s
  obtain ⟨b, hb⟩ := hf a (x.runOn s).2
  refine ⟨b, ?_⟩
  rw [runOn_bind]
  generalize x.runOn s = r at ha hb
  obtain ⟨r, left⟩ := r
  obtain rfl : r = .ok a := ha
  exact hb

/-- Either of two attempts that do not fail does not fail. -/
theorem Succeeds.ite {p : Prop} [Decidable p] {y : Attempt σ α} (h : Succeeds x)
    (h' : Succeeds y) : Succeeds (if p then x else y) := by
  split
  · exact h
  · exact h'

/-! ## Whole attempts -/

/-- What only looks leaves the state as it was. -/
theorem Looks.isWhole (h : Looks x) : IsWhole x := by
  intro s fault left hrun
  rw [← h s, hrun]

/-- What never fails has no fault to leave anything behind. -/
theorem Succeeds.isWhole (h : Succeeds x) : IsWhole x := by
  intro s fault left hrun
  obtain ⟨a, ha⟩ := h s
  rw [hrun] at ha
  cases ha

/-- **What comes after looking is whole if it is whole by itself.** -/
theorem isWhole_bind (h : Looks x) (hf : ∀ a, IsWhole (f a)) : IsWhole (x >>= f) := by
  intro s fault left hrun
  have hlooks := h s
  rw [runOn_bind] at hrun
  rcases hx : x.runOn s with ⟨_ | a, between⟩
  · rw [hx] at hrun hlooks
    cases hrun
    exact hlooks
  · rw [hx] at hrun hlooks
    exact (hf a between fault left hrun).trans hlooks

/-- **What comes before parts that cannot fail is whole if it is whole by itself.** -/
theorem IsWhole.bind (h : IsWhole x) (hf : ∀ a, Succeeds (f a)) : IsWhole (x >>= f) := by
  intro s fault left hrun
  rw [runOn_bind] at hrun
  rcases hx : x.runOn s with ⟨_ | a, between⟩
  · rw [hx] at hrun
    cases hrun
    exact h s _ _ hx
  · rw [hx] at hrun
    obtain ⟨b, hb⟩ := hf a between
    simp only [hrun] at hb
    cases hb

/-- Either of two whole attempts is whole. -/
theorem IsWhole.ite {p : Prop} [Decidable p] {y : Attempt σ α} (h : IsWhole x) (h' : IsWhole y) :
    IsWhole (if p then x else y) := by
  split
  · exact h
  · exact h'

/-- **A fault undoes no change that was made before it**: to change the state and then fail is whole
only if nothing was changed. -/
theorem isWhole_modify_throw_iff (change : σ → σ) (fault : ReadFault) :
    IsWhole (modify change >>= fun _ => (throw fault : Attempt σ α)) ↔ ∀ s, change s = s := by
  constructor
  · intro hwhole s
    exact hwhole s fault (change s) rfl
  · rintro hsame s _ left ⟨⟩
    exact hsame s

/-! ## Outcomes -/

/-- The result of an attempt that succeeds with the state that it leaves, or its fault alone. -/
def outcome (x : Attempt σ α) (s : σ) : Except ReadFault (α × σ) :=
  match x.runOn s with
  | (.ok a, left) => .ok (a, left)
  | (.error fault, _) => .error fault

/-- The outcome of an attempt is that of its parts, one after another. -/
theorem outcome_bind (x : Attempt σ α) (f : α → Attempt σ β) (s : σ) :
    outcome (x >>= f) s = outcome x s >>= fun r => outcome (f r.1) r.2 := by
  unfold outcome
  rw [runOn_bind]
  rcases x.runOn s with ⟨_ | a, left⟩
  · rfl
  · rfl

/-- What may fail without looking at the state comes before the rest. -/
@[simp] theorem outcome_lift_bind (r : Except ReadFault α) (f : α → Attempt σ β) (s : σ) :
    outcome (liftM r >>= f) s = r >>= fun a => outcome (f a) s := by
  rcases r with fault | a
  · rfl
  · rfl

/-- A result that is given in the end comes with the state of what is before it. -/
theorem outcome_bind_pure (x : Attempt σ α) (b : β) (s : σ) :
    outcome (x >>= fun _ => pure b) s = (outcome x s).map fun r => (b, r.2) := by
  rw [outcome_bind]
  rcases outcome x s with fault | r
  · rfl
  · rfl

/-- The state may be looked at. -/
@[simp] theorem outcome_get_bind (f : σ → Attempt σ β) (s : σ) :
    outcome (MonadState.get >>= f) s = outcome (f s) s := rfl

/-- An attempt succeeds with the result and the state of its outcome. -/
theorem outcome_eq_ok : outcome x s = .ok (a, left) ↔ x.runOn s = (.ok a, left) := by
  unfold outcome
  rcases x.runOn s with ⟨_ | b, between⟩
  · simp
  · simp

/-- **A whole attempt has only its outcome to tell**: its fault leaves the state as it was. -/
theorem IsWhole.runOn_eq (h : IsWhole x) (s : σ) : x.runOn s = match outcome x s with
    | .ok (a, left) => (.ok a, left)
    | .error fault => (.error fault, s) := by
  unfold outcome
  rcases hx : x.runOn s with ⟨fault | a, left⟩
  · rw [h s fault left hx]
  · rfl

end Attempt

end ZoneFirewall
