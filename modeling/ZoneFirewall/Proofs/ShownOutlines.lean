import Mathlib.Data.List.Forall2
import ZoneFirewall.Yaml.Document
import ZoneFirewall.Yaml.Printer

/-!
# Outlines in documents

An outline is written for a value: texts for texts, truth values for truth values, and collections
for collections of these. A document in which the value is found again has cells that hold the
outline part by part. No collection in it lies within itself, so that each part is found at its own
position whatever lies around it.

* `Outline.value`: the value that an outline is written for. `Outline.isValue`: whether a value is
  that, so that an example can be checked.
* `Cell.Shows`: what a cell holds of an outline. `Document.unfold_eq_value_iff`: the value of a cell
  is that of an outline if the cell shows it; `unfold_eq_value_of_le`: it does not matter what lies
  around.
* `Position.Shows`: a position at which the value of an outline is. `Shows.text?`, `Shows.isTrue`,
  `Shows.items?`, `Shows.entries?`: **there it looks as in the value itself.**
-/

namespace ZoneFirewall.Yaml

open Text

/-! ## What outlines are written for -/

mutual

/-- The value that an outline is written for. -/
def Outline.value : Outline → Value
  | .text s => .scalar (.text s)
  | .truth b => .scalar (.bool b)
  | .list items => .list (Outline.values items)
  | .mapping entries => .mapping (Outline.entryValues entries)

/-- The values that some outlines are written for. -/
def Outline.values : List Outline → List Value
  | [] => []
  | o :: os => o.value :: Outline.values os

/-- The entries that those of a mapping are written for. -/
def Outline.entryValues : List (WideText × Outline) → List (Scalar × Value)
  | [] => []
  | (key, o) :: rest => (.text key, o.value) :: Outline.entryValues rest

end

namespace Outline

/-- The values of outlines are the value of each. -/
theorem values_eq_map (os : List Outline) : values os = os.map value := by
  induction os with
  | nil => rw [values, List.map_nil]
  | cons o os ih => rw [values, List.map_cons, ih]

/-- The entry that an entry of a mapping is written for. -/
def entryValue (e : WideText × Outline) : Scalar × Value := (.text e.1, e.2.value)

/-- So are those of entries. -/
theorem entryValues_eq_map (es : List (WideText × Outline)) :
    entryValues es = es.map entryValue := by
  induction es with
  | nil => rw [entryValues, List.map_nil]
  | cons e es ih => rw [entryValues, List.map_cons, ih, entryValue]

/-- The value of a list has the values of its items. -/
theorem value_list (os : List Outline) : (list os).value = .list (os.map value) := by
  rw [value, values_eq_map]

/-- That of a mapping has the values of its entries. -/
theorem value_mapping (es : List (WideText × Outline)) :
    (mapping es).value = .mapping (es.map entryValue) := by
  rw [value, entryValues_eq_map]

/-- The entries of a mapping are those that its own are written for. -/
theorem entries?_value_mapping (es : List (WideText × Outline)) :
    (mapping es).value.entries? = some (es.map entryValue) := by
  rw [value_mapping]
  rfl

/-- Whether an outline is a collection. -/
def isCollection : Outline → Bool
  | .text _ => false
  | .truth _ => false
  | .list _ => true
  | .mapping _ => true

end Outline

/-! ### Checking a value -/

mutual

/-- Whether a value is the one that an outline is written for. -/
def Outline.isValue : Outline → Value → Bool
  | .text s, .scalar (.text t) => t = s
  | .truth b, .scalar (.bool c) => c = b
  | .list items, .list values => Outline.areValues items values
  | .mapping entries, .mapping values => Outline.areEntryValues entries values
  | _, _ => false

/-- Whether values are those that some outlines are written for. -/
def Outline.areValues : List Outline → List Value → Bool
  | [], [] => true
  | o :: os, v :: vs => o.isValue v && Outline.areValues os vs
  | _, _ => false

/-- Whether entries are those that the entries of a mapping are written for. -/
def Outline.areEntryValues : List (WideText × Outline) → List (Scalar × Value) → Bool
  | [], [] => true
  | (key, o) :: es, (.text name, v) :: vs =>
    name = key && o.isValue v && Outline.areEntryValues es vs
  | _, _ => false

end

mutual

/-- The check finds out whether a value is that of an outline. -/
theorem Outline.isValue_iff : (o : Outline) → (v : Value) → (o.isValue v ↔ v = o.value)
  | .text s, v => by
      rw [Outline.value]
      rcases v with (_ | _ | _ | _ | _ | t | _ | _ | _) | _ | _ | _ | _ | _ <;>
        simp [Outline.isValue]
  | .truth b, v => by
      rw [Outline.value]
      rcases v with (_ | c | _ | _ | _ | _ | _ | _ | _) | _ | _ | _ | _ | _ <;>
        simp [Outline.isValue]
  | .list os, v => by
      rw [Outline.value]
      cases v with
      | list vs => rw [Outline.isValue, Outline.areValues_iff os vs, Value.list.injEq]
      | _ => simp [Outline.isValue]
  | .mapping es, v => by
      rw [Outline.value]
      cases v with
      | mapping vs => rw [Outline.isValue, Outline.areEntryValues_iff es vs, Value.mapping.injEq]
      | _ => simp [Outline.isValue]

/-- So it does item by item. -/
theorem Outline.areValues_iff :
    (os : List Outline) → (vs : List Value) → (Outline.areValues os vs ↔ vs = Outline.values os)
  | [], vs => by cases vs <;> simp [Outline.areValues, Outline.values]
  | o :: os, vs => by
      cases vs with
      | nil => simp [Outline.areValues, Outline.values]
      | cons v vs =>
          rw [Outline.areValues, Bool.and_eq_true, Outline.isValue_iff o v,
            Outline.areValues_iff os vs, Outline.values, List.cons.injEq]

/-- So it does entry by entry. -/
theorem Outline.areEntryValues_iff : (es : List (WideText × Outline)) →
    (vs : List (Scalar × Value)) → (Outline.areEntryValues es vs ↔ vs = Outline.entryValues es)
  | [], vs => by cases vs <;> simp [Outline.areEntryValues, Outline.entryValues]
  | (key, o) :: es, vs => by
      rw [Outline.entryValues]
      rcases vs with _ | ⟨⟨name, v⟩, vs⟩
      · simp [Outline.areEntryValues]
      · cases name with
        | text name =>
            rw [Outline.areEntryValues, Bool.and_eq_true, Bool.and_eq_true, decide_eq_true_eq,
              Outline.isValue_iff o v, Outline.areEntryValues_iff es vs, List.cons.injEq,
              Prod.mk.injEq, Scalar.text.injEq]
        | _ => simp [Outline.areEntryValues]

end

instance (v : Value) (o : Outline) : Decidable (v = o.value) := decidable_of_iff _ (o.isValue_iff v)

/-! ## Positions that show outlines -/

/-- A cell holds what an outline is written for, if the cells within it show what they should. -/
inductive Cell.Shows (inner : Nat → Outline → Prop) : Cell → Outline → Prop where
  /-- A text. -/
  | text (s : WideText) : Shows inner (.scalar (.text s)) (.text s)
  /-- A truth value. -/
  | truth (b : Bool) : Shows inner (.scalar (.bool b)) (.truth b)
  /-- A list. -/
  | list {items : List Nat} {os : List Outline} :
      List.Forall₂ inner items os → Shows inner (.list items) (.list os)
  /-- A mapping. -/
  | mapping {entries : List (Scalar × Nat)} {es : List (WideText × Outline)} :
      List.Forall₂ (fun m e => m.1 = .text e.1 ∧ inner m.2 e.2) entries es →
        Shows inner (.mapping entries) (.mapping es)

/-- Two lists have the same images if they go together item by item. -/
theorem map_eq_map_iff {α β γ : Type} {f : α → γ} {g : β → γ} {as : List α} {bs : List β} :
    as.map f = bs.map g ↔ List.Forall₂ (fun a b => f a = g b) as bs := by
  rw [← List.forall₂_eq_eq_eq, List.forall₂_map_left_iff, List.forall₂_map_right_iff]

namespace Document

variable {d : Document} {o : Outline} {steps steps' number : Nat} {around around' : List Nat}

/-- The value of a cell is what an outline is written for if the cell shows the outline, and a
collection does not lie within itself. -/
theorem unfold_eq_value_iff : d.unfold (steps + 1) around number = o.value ↔
    (o.isCollection → number ∉ around) ∧
      (d.cell number).Shows (fun m o => d.unfold steps (number :: around) m = o.value) o := by
  have hcontains : around.contains number = true ↔ number ∈ around := by simp
  rw [Document.unfold]
  constructor
  · intro h
    rcases hcell : d.cell number with s | items | ⟨first, second⟩ | items | entries
    · rw [hcell] at h
      cases o with
      | text s' => cases h; exact ⟨nofun, .text s'⟩
      | truth b => cases h; exact ⟨nofun, .truth b⟩
      | list os => cases h
      | mapping es => cases h
    · rw [hcell] at h
      dsimp only at h
      split at h
      · cases o <;> cases h
      · rename_i hmet
        cases o with
        | list os =>
            rw [Outline.value_list, Value.list.injEq, map_eq_map_iff] at h
            exact ⟨fun _ => mt hcontains.2 hmet, .list h⟩
        | _ => cases h
    · rw [hcell] at h
      dsimp only at h
      split at h
      · cases o <;> cases h
      · cases o <;> cases h
    · rw [hcell] at h
      cases o <;> cases h
    · rw [hcell] at h
      dsimp only at h
      split at h
      · cases o <;> cases h
      · rename_i hmet
        cases o with
        | mapping es =>
            rw [Outline.value_mapping, Value.mapping.injEq, map_eq_map_iff] at h
            exact ⟨fun _ => mt hcontains.2 hmet, .mapping (h.imp fun _ _ he => Prod.mk.inj he)⟩
        | _ => cases h
  · rintro ⟨hmet, h⟩
    generalize d.cell number = cell at h
    cases h with
    | text => rfl
    | truth => rfl
    | list h =>
        dsimp only
        rw [if_neg (mt hcontains.1 (hmet rfl)), Outline.value_list, map_eq_map_iff.2 h]
    | @mapping entries es h =>
        have hentries : entries.map (fun e => (e.1, d.unfold steps (number :: around) e.2))
            = es.map Outline.entryValue := map_eq_map_iff.2 (h.imp fun _ _ he => Prod.ext he.1 he.2)
        dsimp only
        rw [if_neg (mt hcontains.1 (hmet rfl)), Outline.value_mapping, hentries]

/-- What a cell shows of an outline it shows with more steps and fewer collections around it, as
there is no place in an outline where steps have run out or a collection comes again. -/
theorem unfold_eq_value_of_le (hsub : around' ⊆ around) (hle : steps ≤ steps')
    (h : d.unfold steps around number = o.value) : d.unfold steps' around' number = o.value := by
  induction steps generalizing o steps' around around' number with
  | zero => cases o <;> cases h
  | succ steps ih =>
      obtain ⟨steps', rfl⟩ : ∃ m, steps' = m + 1 := Nat.exists_eq_succ_of_ne_zero (by omega)
      obtain ⟨hmet, hshows⟩ := unfold_eq_value_iff.1 h
      have hinner : ∀ m (o : Outline), d.unfold steps (number :: around) m = o.value →
          d.unfold steps' (number :: around') m = o.value := fun m o hm =>
        ih (List.cons_subset_cons _ hsub) (Nat.le_of_succ_le_succ hle) hm
      refine unfold_eq_value_iff.2 ⟨fun hcollection hmem => hmet hcollection (hsub hmem), ?_⟩
      generalize d.cell number = cell at hshows
      cases hshows with
      | text s => exact .text s
      | truth b => exact .truth b
      | list hitems => exact .list (hitems.imp hinner)
      | mapping hentries => exact .mapping (hentries.imp fun m e he => ⟨he.1, hinner _ _ he.2⟩)

end Document

namespace Position

variable {p : Position} {o : Outline}

/-- The value at a position is what an outline is written for. -/
def Shows (p : Position) (o : Outline) : Prop := p.value = o.value

/-- The cell at the position shows the outline, and so do the positions within it what is within the
outline. -/
theorem Shows.cell (h : p.Shows o) :
    (p.document.cell p.number).Shows (fun m o => (p.move m).Shows o) o := by
  have hcell := (Document.unfold_eq_value_iff.1 h).2
  have hinner : ∀ m (o : Outline), p.document.unfold p.document.cells.size [p.number] m = o.value →
      (p.move m).Shows o := fun m o hm =>
    Document.unfold_eq_value_of_le (List.nil_subset _) (Nat.le_succ _) hm
  generalize p.document.cell p.number = cell at hcell
  cases hcell with
  | text s => exact .text s
  | truth b => exact .truth b
  | list hitems => exact .list (hitems.imp hinner)
  | mapping hentries => exact .mapping (hentries.imp fun m e he => ⟨he.1, hinner _ _ he.2⟩)

/-- The position looks like the value of the outline. -/
theorem Shows.text? (h : p.Shows o) : p.text? = o.value.text? := by
  have hcell := h.cell
  unfold Position.text? Position.outline
  rw [Document.unfold]
  generalize p.document.cell p.number = cell at hcell
  cases hcell with
  | text => rfl
  | truth => rfl
  | list => rfl
  | mapping => rfl

/-- A position that shows an outline counts as true if the value of the outline does. -/
theorem Shows.isTrue (h : p.Shows o) : p.isTrue = o.value.isTrue := by
  have hcell := h.cell
  unfold Position.isTrue Position.outline
  rw [Document.unfold]
  generalize p.document.cell p.number = cell at hcell
  cases hcell with
  | text => rfl
  | truth => rfl
  | list hitems =>
      cases hitems with
      | nil => rfl
      | cons => rfl
  | mapping hentries =>
      cases hentries with
      | nil => rfl
      | cons => rfl

/-- What a value is made up of are the values of the positions that the position is made up of. -/
theorem Shows.items? (h : p.Shows o) : p.items? = o.value.items? := by
  have hcell := h.cell
  unfold Position.items? Position.outline
  rw [Document.unfold]
  generalize p.document.cell p.number = cell at hcell
  cases hcell with
  | text => rfl
  | truth => rfl
  | list hitems =>
      rw [Outline.value_list]
      exact congrArg some (map_eq_map_iff.2 hitems)
  | @mapping entries es hentries =>
      have hkeys : entries.map (fun e => Value.scalar e.1)
          = es.map fun e => Value.scalar (.text e.1) :=
        map_eq_map_iff.2 (hentries.imp fun _ _ he => congrArg Value.scalar he.1)
      rw [Outline.value_mapping]
      show some ((entries.map _).map _) = some ((es.map _).map _)
      rw [List.map_map, List.map_map]
      exact congrArg some hkeys

/-- A position that shows a mapping has its entries, with positions that show what is within. -/
theorem Shows.entries? {es : List (WideText × Outline)} (h : p.Shows (.mapping es)) :
    ∃ ps, p.entries? = some ps ∧
      List.Forall₂ (fun m e => m.1 = .text e.1 ∧ m.2.Shows e.2) ps es := by
  have hcell := h.cell
  unfold Position.entries?
  generalize p.document.cell p.number = cell at hcell
  cases hcell with
  | mapping hentries =>
      exact ⟨_, rfl, List.forall₂_map_left_iff.2 hentries⟩

/-- A position that shows something else has no entries. -/
theorem Shows.entries?_eq_none (h : p.Shows o) (ho : o.value.entries? = none) :
    p.entries? = none := by
  have hcell := h.cell
  unfold Position.entries?
  generalize p.document.cell p.number = cell at hcell
  cases hcell with
  | mapping => cases ho
  | _ => rfl

end Position

end ZoneFirewall.Yaml
