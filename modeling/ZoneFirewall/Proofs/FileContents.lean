import ZoneFirewall.CommandLine.FileTree

/-!
# What is new in a tree of files

Making directories adds directories and leaves all that was there as it was, also if not all of them
can be made; writing a file sets what is at the place that its path leads to, and nothing else.

* `AddsDirectories`: nothing is new but directories, and nothing is gone. `AddsDirectories.refl`,
  `AddsDirectories.trans`; `addsDirectories_makeDirectories`: **so it is when directories are
  made.**
* `SetsFile`: a path leads to a file with the given content, and nothing else is new but
  directories. `setsFile_write`: **so it is when a file is written**, also if it is there already.
-/

namespace ZoneFirewall.CommandLine.FileTree

variable {t t' t'' : FileTree} {place target : Path} {p : Path}

/-! ## Directories -/

/-- Nothing is new but directories, and nothing is gone. -/
def AddsDirectories (before after : FileTree) : Prop :=
  ∀ place, after.entry? place = before.entry? place ∨
    before.entry? place = none ∧ after.entry? place = some .directory

/-- Nothing is new in a tree that is left as it is. -/
theorem AddsDirectories.refl (t : FileTree) : AddsDirectories t t := fun _ => .inl rfl

/-- Directories may be added again and again. -/
theorem AddsDirectories.trans (h : AddsDirectories t t') (h' : AddsDirectories t' t'') :
    AddsDirectories t t'' := by
  intro place
  rcases h place with hsame | ⟨hnone, hnew⟩
  · rcases h' place with hsame' | ⟨hnone', hnew'⟩
    · exact .inl (hsame'.trans hsame)
    · exact .inr ⟨hsame.symm.trans hnone', hnew'⟩
  · rcases h' place with hsame' | ⟨hnone', -⟩
    · exact .inr ⟨hnone, hsame'.trans hnew⟩
    · rw [hnew] at hnone'
      cases hnone'

/-- Something is put only where a tree can hold something: the working directory and those above it
are there without it. -/
theorem entry_put (hplace : t.entry? place ≠ some .directory) (e : Entry) (q : Path) :
    entry? (t.put place e) q = if place = q then some e else t.entry? q := by
  have hgiven : ¬ place.parts.all (· = "..") := fun hall => hplace (if_pos hall)
  unfold entry? put
  by_cases hq : place = q
  · subst hq
    rw [if_neg hgiven, if_pos rfl, Table.get?_insert, if_pos rfl]
  · rw [if_neg hq, Table.get?_insert, if_neg hq]

/-- A directory may be put where there is nothing. -/
theorem addsDirectories_put (h : t.entry? place = none) :
    AddsDirectories t (t.put place .directory) := by
  intro q
  rw [entry_put (by rw [h]; nofun)]
  by_cases hq : place = q
  · subst hq
    exact .inr ⟨h, if_pos rfl⟩
  · exact .inl (if_neg hq)

/-- A new directory is made where there is nothing. -/
theorem addsDirectories_makeDirectory (h : t.makeDirectory p = .ok t') : AddsDirectories t t' := by
  unfold makeDirectory at h
  split at h
  · cases h
  · split at h
    · cases h
    · rename_i hnone
      cases h
      exact addsDirectories_put hnone

/-- So it is where there may be one already, and if it cannot be made nothing is. -/
theorem addsDirectories_ensureDirectory (t : FileTree) (p : Path) :
    AddsDirectories t (t.ensureDirectory p).1 := by
  unfold ensureDirectory
  rcases hmade : t.makeDirectory p with fault | made
  · simp only
    split
    · exact .refl t
    · exact .refl t
  · exact addsDirectories_makeDirectory hmade

/-- So it is with the directories on the way, of which the first ones may be all that is made. -/
theorem addsDirectories_ensureLeading (t : FileTree) (p : Path) (n : Nat) :
    AddsDirectories t (t.ensureLeading p n).1 := by
  induction n with
  | zero => exact addsDirectories_ensureDirectory t _
  | succ n ih =>
      have hfound := addsDirectories_ensureDirectory t (p.upTo (n + 1))
      unfold ensureLeading
      split
      · split
        · rename_i hleading
          rw [hleading] at ih
          exact ih.trans (addsDirectories_ensureDirectory _ _)
        · exact ih
      · exact hfound

/-- **Making directories adds directories only**, whether or not all of them can be made. -/
theorem addsDirectories_makeDirectories (t : FileTree) (p : Path) :
    AddsDirectories t (t.makeDirectories p).1 :=
  addsDirectories_ensureLeading t p p.parts.length

/-! ## Files -/

/-- A path leads to a file with the given content, and nothing else is new but directories. -/
def SetsFile (before after : FileTree) (p : Path) (bytes : List UInt8) : Prop :=
  ∃ place, after.walk p = .ok place ∧ after.entry? place = some (.file bytes) ∧
    ∀ q, q ≠ place → after.entry? q = before.entry? q ∨
      before.entry? q = none ∧ after.entry? q = some .directory

/-- A file at the end of a way changes nothing on the way: what is on the way are directories. -/
theorem walkFrom_put {parts : List String} {bytes : List UInt8}
    (htarget : t.entry? target ≠ some .directory) (h : t.walkFrom place parts = .ok target) :
    (t.put target (.file bytes)).walkFrom place parts = .ok target := by
  induction parts generalizing place with
  | nil => exact h
  | cons part rest ih =>
      unfold walkFrom at h ⊢
      split at h
      · cases h
      · cases h
      · rename_i hdirectory
        have hne : target ≠ place := by
          rintro rfl
          exact htarget hdirectory
        rw [entry_put htarget, if_neg hne, hdirectory]
        simp only
        split at h
        · cases h
        · rename_i hshort
          rw [if_neg hshort]
          exact ih h

/-- **Writing a file sets its content and nothing else.** -/
theorem setsFile_write {bytes : List UInt8} (h : t.write p bytes = .ok t') :
    SetsFile t t' p bytes := by
  unfold write at h
  split at h
  · cases h
  · rename_i place hwalk
    split at h
    · cases h
    · rename_i hplace
      cases h
      refine ⟨place, ?_, ?_, fun q hq => .inl ?_⟩
      · unfold walk at hwalk ⊢
        rcases hfault : fault? p with _ | fault
        · rw [hfault] at hwalk
          exact walkFrom_put hplace hwalk
        · rw [hfault] at hwalk
          cases hwalk
      · rw [entry_put hplace, if_pos rfl]
      · rw [entry_put hplace, if_neg hq.symm]

/-- They may be added before a file is set. -/
theorem SetsFile.of_addsDirectories {bytes : List UInt8} (h : AddsDirectories t t')
    (h' : SetsFile t' t'' p bytes) : SetsFile t t'' p bytes := by
  obtain ⟨place, hwalk, hfile, hothers⟩ := h'
  refine ⟨place, hwalk, hfile, fun q hq => ?_⟩
  rcases hothers q hq with hsame | ⟨hnone, hnew⟩
  · rw [hsame]
    exact h q
  · rcases h q with hsame | ⟨-, hmade⟩
    · exact .inr ⟨hsame.symm.trans hnone, hnew⟩
    · rw [hmade] at hnone
      cases hnone

end ZoneFirewall.CommandLine.FileTree
