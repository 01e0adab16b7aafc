/-!
# Steps that may fail

A step yields a result or the reason for which there is none, and of several steps the first that
fails decides.

* `map_eq_ok`, `map_eq_error`: a step whose result is changed. `mapError_eq_ok`: one whose failure
  is.
* `bind_eq_ok`, `bind_eq_error`: a step after another.
* `IsFirst`: the first of some items with a property.
* `mapM_eq_ok`, `foldlM_eq_ok`: a step for each item of a list. `mapM_eq_error`, `foldlM_eq_error`:
  **the first step that fails decides.**
-/

namespace ZoneFirewall

variable {ε α β σ : Type}

/-! ## Two steps -/

/-- A result that is changed is one if it was one before. -/
theorem map_eq_ok {f : α → β} {x : Except ε α} {b : β} :
    x.map f = .ok b ↔ ∃ a, x = .ok a ∧ f a = b := by
  rcases x with e | a
  · simp [Except.map]
  · simp [Except.map]

/-- A result is not touched by what is done to failures. -/
theorem mapError_eq_ok {ε' : Type} {f : ε → ε'} {x : Except ε α} {a : α} :
    x.mapError f = .ok a ↔ x = .ok a := by
  rcases x with e | b
  · show Except.error (f e) = .ok a ↔ Except.error e = .ok a
    simp
  · show Except.ok b = .ok a ↔ Except.ok b = .ok a
    simp

/-- Two steps succeed if the first does and the second does with its result. -/
theorem bind_eq_ok {x : Except ε α} {next : α → Except ε β} {b : β} :
    (x >>= next) = .ok b ↔ ∃ a, x = .ok a ∧ next a = .ok b := by
  rcases x with e | a
  · simp [bind, Except.bind]
  · simp [bind, Except.bind]

/-- What is changed has failed if it had failed before. -/
theorem map_eq_error {f : α → β} {x : Except ε α} {e : ε} :
    x.map f = .error e ↔ x = .error e := by
  rcases x with e' | a
  · simp [Except.map]
  · simp [Except.map]

/-- Two steps fail if the first does, or the second with the first one's result. -/
theorem bind_eq_error {x : Except ε α} {next : α → Except ε β} {e : ε} :
    (x >>= next) = .error e ↔ x = .error e ∨ ∃ a, x = .ok a ∧ next a = .error e := by
  rcases x with e' | a
  · simp [bind, Except.bind]
  · simp [bind, Except.bind]

/-! ## The first of some items -/

/-- The first of some items with a property. -/
def IsFirst (P : α → Prop) (items : List α) (x : α) : Prop :=
  ∃ before after, items = before ++ x :: after ∧ P x ∧ ∀ y ∈ before, ¬ P y

section first

variable {P Q : α → Prop} {items : List α} {a x : α}

/-- The first of some items is one of them. -/
theorem IsFirst.mem (h : IsFirst P items x) : x ∈ items := by
  obtain ⟨before, after, rfl, -⟩ := h
  simp

/-- The first item with a property has it. -/
theorem IsFirst.holds (h : IsFirst P items x) : P x := by
  obtain ⟨before, after, -, hx, -⟩ := h
  exact hx

/-- Among no items there is no first one. -/
theorem not_isFirst_nil : ¬ IsFirst P [] x := by
  rintro ⟨before, after, hitems, -⟩
  simp at hitems

/-- The first item of a kind is the head if it is of the kind, and the first of the others if not.
-/
theorem isFirst_cons : IsFirst P (a :: items) x ↔ (P a ∧ x = a) ∨ (¬ P a ∧ IsFirst P items x) := by
  constructor
  · rintro ⟨before, after, hitems, hx, hbefore⟩
    rcases before with _ | ⟨b, before⟩
    · cases hitems
      exact .inl ⟨hx, rfl⟩
    · cases hitems
      exact .inr ⟨hbefore a List.mem_cons_self, before, after, rfl, hx,
        fun y hy => hbefore y (List.mem_cons_of_mem _ hy)⟩
  · rintro (⟨ha, rfl⟩ | ⟨ha, before, after, rfl, hx, hbefore⟩)
    · exact ⟨[], items, rfl, ha, by simp⟩
    · exact ⟨a :: before, after, rfl, hx, List.forall_mem_cons.2 ⟨ha, hbefore⟩⟩

/-- The first of some items is in the first part if that has one. -/
theorem isFirst_append {first second : List α} :
    IsFirst P (first ++ second) x ↔
      IsFirst P first x ∨ ((∀ y ∈ first, ¬ P y) ∧ IsFirst P second x) := by
  induction first with
  | nil => simp [not_isFirst_nil]
  | cons b first ih =>
      rw [List.cons_append, isFirst_cons, isFirst_cons, ih, List.forall_mem_cons, and_or_left,
        or_assoc, and_assoc]

/-- The first of mapped items comes from the first that is mapped to the kind. -/
theorem isFirst_map {f : β → α} {sources : List β} :
    IsFirst P (sources.map f) x ↔ ∃ b, IsFirst (fun b => P (f b)) sources b ∧ f b = x := by
  induction sources with
  | nil => simp [not_isFirst_nil]
  | cons b sources ih =>
      rw [List.map_cons, isFirst_cons, ih, @eq_comm _ x]
      simp only [isFirst_cons, or_and_right, exists_or, and_assoc, exists_and_left, exists_eq_left]

/-- The first of the items that come from others comes from the first that any comes from. -/
theorem isFirst_flatMap {f : β → List α} {sources : List β} :
    IsFirst P (sources.flatMap f) x ↔
      ∃ b, IsFirst (fun b => ∃ y ∈ f b, P y) sources b ∧ IsFirst P (f b) x := by
  induction sources with
  | nil => simp [not_isFirst_nil]
  | cons b sources ih =>
      have hb : IsFirst P (f b) x → ∃ y ∈ f b, P y := by
        rintro ⟨before, after, hitems, hx, -⟩
        exact ⟨x, by simp [hitems], hx⟩
      rw [List.flatMap_cons, isFirst_append, ih]
      simp only [isFirst_cons, or_and_right, exists_or, and_assoc, exists_and_left]
      constructor
      · rintro (h | ⟨hnone, b', hfirst, hx⟩)
        · exact .inl ⟨hb h, b, rfl, h⟩
        · refine .inr ⟨?_, b', hfirst, hx⟩
          rintro ⟨y, hy, hPy⟩
          exact hnone y hy hPy
      · rintro (⟨-, b', rfl, h⟩ | ⟨hnone, b', hfirst, hx⟩)
        · exact .inl h
        · exact .inr ⟨fun y hy hPy => hnone ⟨y, hy, hPy⟩, b', hfirst, hx⟩

/-- There is a first item with a property if there is any. -/
theorem exists_isFirst (h : ∃ y ∈ items, P y) : ∃ x, IsFirst P items x := by
  induction items with
  | nil => simp at h
  | cons b items ih =>
      by_cases hb : P b
      · exact ⟨b, isFirst_cons.2 (.inl ⟨hb, rfl⟩)⟩
      · simp only [List.mem_cons, exists_eq_or_imp] at h
        obtain ⟨x, hx⟩ := ih (h.resolve_left hb)
        exact ⟨x, isFirst_cons.2 (.inr ⟨hb, hx⟩)⟩

/-- Kinds that agree on the items have the same first one. -/
theorem isFirst_congr (h : ∀ y ∈ items, P y ↔ Q y) : IsFirst P items x ↔ IsFirst Q items x := by
  induction items with
  | nil => simp [not_isFirst_nil]
  | cons b items ih =>
      obtain ⟨hb, hitems⟩ := List.forall_mem_cons.1 h
      rw [isFirst_cons, isFirst_cons, hb, ih hitems]

end first

/-! ## A step for each item -/

section items

variable {f : α → Except ε β} {g : α → β}

/-- All steps succeed if each does; the results are those of a function that agrees with them. -/
theorem mapM_eq_ok (hg : ∀ x y, f x = .ok y → g x = y) (xs : List α) (ys : List β) :
    xs.mapM f = .ok ys ↔ (∀ x ∈ xs, f x = .ok (g x)) ∧ ys = xs.map g := by
  induction xs generalizing ys with
  | nil => simp [pure, Except.pure, eq_comm]
  | cons x xs ih =>
      rw [List.mapM_cons]
      rcases hx : f x with e | y
      · simp [bind, Except.bind, hx]
      · rcases hxs : xs.mapM f with e | zs
        · have hno : ¬ ∀ x ∈ xs, f x = .ok (g x) := by
            intro hall
            have := (ih (xs.map g)).2 ⟨hall, rfl⟩
            rw [hxs] at this
            cases this
          simp only [bind, Except.bind, List.forall_mem_cons, reduceCtorEq, false_iff]
          exact fun h => hno h.1.2
        · obtain ⟨hall, rfl⟩ := (ih zs).1 hxs
          have hy : g x = y := hg x y hx
          simp only [bind, Except.bind, pure, Except.pure, Except.ok.injEq,
            List.forall_mem_cons, hx, hy, List.map_cons, true_and]
          exact ⟨fun h => ⟨hall, h.symm⟩, fun h => h.2.symm⟩

/-- A state goes through all steps if each succeeds. -/
theorem foldlM_eq_ok (hg : ∀ x y, f x = .ok y → g x = y) (next : σ → α → β → σ) (xs : List α)
    (s t : σ) :
    xs.foldlM (fun s x => do return next s x (← f x)) s = .ok t ↔
      (∀ x ∈ xs, f x = .ok (g x)) ∧ t = xs.foldl (fun s x => next s x (g x)) s := by
  induction xs generalizing s with
  | nil => simp [pure, Except.pure, eq_comm]
  | cons x xs ih =>
      rw [List.foldlM_cons]
      rcases hx : f x with e | y
      · simp [bind, Except.bind, hx]
      · have hy : g x = y := hg x y hx
        have hih := ih (next s x y)
        simp only [bind, Except.bind, pure, Except.pure] at hih ⊢
        simp only [hih, List.forall_mem_cons, hx, hy, List.foldl_cons, true_and]

/-- All steps fail as the first that fails. -/
theorem mapM_eq_error {xs : List α} {e : ε} :
    xs.mapM f = .error e ↔ ∃ x, IsFirst (fun x => ∃ e, f x = .error e) xs x ∧ f x = .error e := by
  induction xs with
  | nil => simp [not_isFirst_nil, pure, Except.pure]
  | cons x xs ih =>
      rw [List.mapM_cons, bind_eq_error]
      simp only [bind_eq_error, ih, isFirst_cons, or_and_right, exists_or, and_assoc,
        exists_and_left]
      rcases hx : f x with e' | y
      · simp [hx, pure, Except.pure]
      · simp [pure, Except.pure]

/-- A state goes through no further step than the first that fails. -/
theorem foldlM_eq_error {next : σ → α → β → σ} {xs : List α} {s : σ} {e : ε} :
    xs.foldlM (fun s x => do return next s x (← f x)) s = .error e ↔
      ∃ x, IsFirst (fun x => ∃ e, f x = .error e) xs x ∧ f x = .error e := by
  induction xs generalizing s with
  | nil => simp [not_isFirst_nil, pure, Except.pure]
  | cons x xs ih =>
      rw [List.foldlM_cons, bind_eq_error]
      simp only [ih, isFirst_cons, or_and_right, exists_or, and_assoc, exists_and_left]
      rcases hx : f x with e' | y
      · simp [hx, bind, Except.bind]
      · simp [hx, bind, Except.bind, pure, Except.pure]

end items

end ZoneFirewall
