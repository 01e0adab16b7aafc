/-!
# Tables in insertion order

A table maps keys to values and keeps its keys in the order in which they first came. Setting a key
that is there already changes its value and leaves it in its place; a key that is taken out and set
again goes to the end.

* `Table`: the entries, no key twice.
* `Table.get?`, `Table.insert`, `Table.update`, `Table.erase`, `Table.ofList`.
* `Table.get?_insert`, `Table.get?_update`, `Table.get?_erase`: each operation through `get?`.
* `Table.tabulate`, `Table.valueOf`: values of a function that are worked out once.
  `Table.valueOf_tabulate`: they are the function's values.
-/

namespace ZoneFirewall

/-- A table from keys to values, in the order in which the keys first came. -/
structure Table (κ ν : Type) where
  /-- The keys with their values. -/
  entries : List (κ × ν)
  /-- No key comes twice. -/
  nodup : (entries.map Prod.fst).Nodup

namespace Table

variable {κ ν : Type} [DecidableEq κ]

/-! ## Entries -/

/-- The value of a key among entries. -/
def lookupEntry (k : κ) : List (κ × ν) → Option ν
  | [] => none
  | (k', v) :: rest => if k' = k then some v else lookupEntry k rest

/-- The entries with a key set to a value: in its place if it is there, else at the end. -/
def setEntry (k : κ) (v : ν) : List (κ × ν) → List (κ × ν)
  | [] => [(k, v)]
  | (k', v') :: rest => if k' = k then (k', v) :: rest else (k', v') :: setEntry k v rest

/-- Setting a key adds it to the keys, if it is not there. -/
theorem mem_keys_setEntry {k a : κ} {v : ν} {es : List (κ × ν)} :
    a ∈ (setEntry k v es).map Prod.fst ↔ a = k ∨ a ∈ es.map Prod.fst := by
  induction es with
  | nil => simp [setEntry]
  | cons e es ih =>
    obtain ⟨k', v'⟩ := e
    by_cases h : k' = k
    · subst h; simp [setEntry]
    · simp only [setEntry, h, ite_false, List.map_cons, List.mem_cons, ih]
      grind

/-- No key comes twice after it. -/
theorem nodup_setEntry {k : κ} {v : ν} {es : List (κ × ν)} (h : (es.map Prod.fst).Nodup) :
    ((setEntry k v es).map Prod.fst).Nodup := by
  induction es with
  | nil => simp [setEntry]
  | cons e es ih =>
    obtain ⟨k', v'⟩ := e
    rw [List.map_cons, List.nodup_cons] at h
    by_cases hk : k' = k
    · simpa [setEntry, hk] using h
    · simp only [setEntry, hk, ite_false, List.map_cons, List.nodup_cons, mem_keys_setEntry]
      exact ⟨by simpa using h.1, ih h.2⟩

/-- The key has its new value then, and all others have the one they had. -/
theorem lookupEntry_setEntry {k a : κ} {v : ν} {es : List (κ × ν)} :
    lookupEntry a (setEntry k v es) = if k = a then some v else lookupEntry a es := by
  induction es with
  | nil => simp [setEntry, lookupEntry]
  | cons e es ih =>
    obtain ⟨k', v'⟩ := e
    by_cases hk : k' = k
    · subst hk
      by_cases ha : k' = a <;> simp [setEntry, lookupEntry, ha]
    · by_cases ha : k' = a
      · subst ha
        have hne : k ≠ k' := fun h => hk h.symm
        simp [setEntry, lookupEntry, hk, hne]
      · simp [setEntry, lookupEntry, hk, ha, ih]

/-- A key that is taken out has no value, and all others have the one they had. -/
theorem lookupEntry_filter {k a : κ} {es : List (κ × ν)} :
    lookupEntry a (es.filter fun e => e.1 ≠ k) = if k = a then none else lookupEntry a es := by
  induction es with
  | nil => simp [lookupEntry]
  | cons e es ih =>
    obtain ⟨k', v'⟩ := e
    by_cases hk : k' = k
    · subst hk
      by_cases ha : k' = a
      · simpa [lookupEntry, ha] using ih
      · simp_all [lookupEntry]
    · by_cases ha : k' = a
      · subst ha
        have hne : k ≠ k' := fun h => hk h.symm
        simp [lookupEntry, hk, hne]
      · simp_all [lookupEntry]

/-! ## Operations -/

/-- The table with no keys. -/
def empty : Table κ ν := ⟨[], by simp⟩

instance : EmptyCollection (Table κ ν) := ⟨empty⟩

instance : Inhabited (Table κ ν) := ⟨empty⟩

/-- The value of a key. -/
def get? (t : Table κ ν) (k : κ) : Option ν := lookupEntry k t.entries

/-- Whether the key is in the table. -/
def contains (t : Table κ ν) (k : κ) : Bool := (t.get? k).isSome

/-- The keys in order. -/
def keys (t : Table κ ν) : List κ := t.entries.map Prod.fst

/-- How many keys there are. -/
def size (t : Table κ ν) : Nat := t.entries.length

/-- Sets a key to a value. -/
def insert (t : Table κ ν) (k : κ) (v : ν) : Table κ ν :=
  ⟨setEntry k v t.entries, nodup_setEntry t.nodup⟩

/-- Sets a key to what `f` makes of its present value, if any. -/
def update (t : Table κ ν) (k : κ) (f : Option ν → ν) : Table κ ν := t.insert k (f (t.get? k))

/-- Takes a key out. -/
def erase (t : Table κ ν) (k : κ) : Table κ ν where
  entries := t.entries.filter fun e => e.1 ≠ k
  nodup := List.Pairwise.sublist (List.Sublist.map Prod.fst List.filter_sublist) t.nodup

/-- The table of some pairs; of two with one key, the place of the first and the value of the
last. -/
def ofList (es : List (κ × ν)) : Table κ ν := es.foldl (fun t e => t.insert e.1 e.2) empty

/-! ## Each operation through `get?` -/

/-- No key has a value in the empty table. -/
@[simp] theorem get?_empty (k : κ) : (empty : Table κ ν).get? k = none := rfl

/-- A key that is set has the new value, and all others have the one they had. -/
@[simp] theorem get?_insert (t : Table κ ν) (k a : κ) (v : ν) :
    (t.insert k v).get? a = if k = a then some v else t.get? a := lookupEntry_setEntry

/-- So it is if the new value is made of the old one. -/
@[simp] theorem get?_update (t : Table κ ν) (k a : κ) (f : Option ν → ν) :
    (t.update k f).get? a = if k = a then some (f (t.get? k)) else t.get? a := by
  simp [update]

/-- A key that is taken out has no value, and all others have the one they had. -/
@[simp] theorem get?_erase (t : Table κ ν) (k a : κ) :
    (t.erase k).get? a = if k = a then none else t.get? a := lookupEntry_filter

/-- What has a value is a key. -/
theorem mem_keys_of_lookupEntry {es : List (κ × ν)} {k : κ} {v : ν}
    (h : lookupEntry k es = some v) :
    k ∈ es.map Prod.fst := by
  induction es with
  | nil => cases h
  | cons e es ih =>
    obtain ⟨k', v'⟩ := e
    by_cases hk : k' = k
    · simp [hk]
    · simp only [lookupEntry, hk, ite_false] at h
      exact List.mem_cons_of_mem _ (ih h)

/-- A key with a value is among the keys. -/
theorem mem_keys_of_get? {t : Table κ ν} {k : κ} {v : ν} (h : t.get? k = some v) : k ∈ t.keys :=
  mem_keys_of_lookupEntry h

/-- Every key has a value. -/
theorem isSome_lookupEntry {es : List (κ × ν)} {k : κ} (h : k ∈ es.map Prod.fst) :
    (lookupEntry k es).isSome := by
  induction es with
  | nil => cases h
  | cons e es ih =>
    obtain ⟨k', v'⟩ := e
    by_cases hk : k' = k
    · simp [lookupEntry, hk]
    · simp only [lookupEntry, hk, ite_false]
      rw [List.map_cons, List.mem_cons] at h
      exact ih (h.resolve_left fun h => hk h.symm)

/-- The keys in the table are those with a value. -/
theorem contains_iff_mem_keys {t : Table κ ν} {k : κ} : t.contains k = true ↔ k ∈ t.keys := by
  constructor
  · intro h
    obtain ⟨v, hv⟩ := Option.isSome_iff_exists.1 h
    exact mem_keys_of_get? hv
  · exact isSome_lookupEntry

/-! ## Values of a function -/

/-- A table with one more value of a function, unless it is there. -/
def note (f : κ → ν) (t : Table κ ν) (k : κ) : Table κ ν :=
  if t.contains k then t else t.insert k (f k)

/-- The values of a function at some keys, each worked out once. -/
def tabulate (f : κ → ν) (keys : List κ) : Table κ ν := keys.foldl (note f) empty

/-- The value of a function at a key, taken from a table of its values if it is there. -/
def valueOf (t : Table κ ν) (f : κ → ν) (k : κ) : ν :=
  match t.get? k with
  | some v => v
  | none => f k

/-- Values of the function stay so when one more is noted. -/
theorem eq_of_get?_note {f : κ → ν} {t : Table κ ν} (ht : ∀ a v, t.get? a = some v → v = f a)
    (k a : κ) (v : ν) (h : (note f t k).get? a = some v) : v = f a := by
  unfold note at h
  split at h
  · exact ht a v h
  · rw [get?_insert] at h
    split at h
    · rename_i hk
      rw [← hk, ← Option.some.inj h]
    · exact ht a v h

/-- So they do when several are. -/
theorem eq_of_get?_foldl_note {f : κ → ν} (keys : List κ) {t : Table κ ν}
    (ht : ∀ a v, t.get? a = some v → v = f a) (a : κ) (v : ν)
    (h : (keys.foldl (note f) t).get? a = some v) : v = f a := by
  induction keys generalizing t with
  | nil => exact ht a v h
  | cons k keys ih => exact ih (eq_of_get?_note ht k) h

/-- What a table of values gives are the values. -/
theorem valueOf_tabulate (f : κ → ν) (keys : List κ) (k : κ) :
    (tabulate f keys).valueOf f k = f k := by
  unfold valueOf
  split
  · rename_i v h
    exact eq_of_get?_foldl_note keys (by simp) k v h
  · rfl

end Table

end ZoneFirewall
