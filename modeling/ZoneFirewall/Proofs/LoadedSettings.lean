import ZoneFirewall.Proofs.Outcomes
import ZoneFirewall.Settings.Loading

/-!
# What loaded settings are like

Whatever value settings are loaded from, all short forms of their services have been read once, and
there are zones: where the value names none, the usual one.

* `Settings.IsAccepted`: that short forms can be read. `definitionsOf_eq_ok_iff`: what is read off
  them.
* `Settings.ofValue_eq_ok_iff`: what settings come from which value.
* `Settings.isAccepted_servicesFrom`: **services that are loaded have short forms that can be
  read.**
* `Settings.IsNormal`: settings with zones and with such services. `isNormal_of_ofValue`: those that
  are loaded from a value are that.
-/

namespace ZoneFirewall

open Text Yaml

namespace Settings

open Loadable

/-! ## Short forms that can be read -/

/-- The short forms can be read. -/
def IsAccepted (specs : List WideText) : Prop := ∃ ds, definitionsOf specs = .ok ds

/-- Definitions are those of short forms if each short form stands for its definition. -/
theorem definitionsOf_eq_ok_iff {specs : List WideText} {ds : List Definition} :
    definitionsOf specs = .ok ds ↔ specs.map Definition.parseSpec = ds.map .ok := by
  unfold definitionsOf
  induction specs generalizing ds with
  | nil =>
      rcases ds with _ | ⟨d, ds⟩
      · simp [pure, Except.pure]
      · simp [pure, Except.pure]
  | cons spec specs ih =>
      rw [List.mapM_cons, bind_eq_ok, List.map_cons]
      constructor
      · rintro ⟨d, hd, h⟩
        obtain ⟨rest, hrest, hds⟩ := bind_eq_ok.1 h
        cases hds
        rw [hd, ih.1 hrest, List.map_cons]
      · intro h
        rcases ds with _ | ⟨d, ds⟩
        · cases h
        · obtain ⟨hd, hrest⟩ := List.cons.inj h
          exact ⟨d, hd, bind_eq_ok.2 ⟨ds, ih.2 hrest, rfl⟩⟩

variable {α : Type} [Loadable α] {v : α} {s : Settings}

/-! ## Loading -/

/-- Settings come from the entries of a mapping, each field from the entry that has its name. -/
theorem ofValue_eq_ok_iff : ofValue v = .ok s ↔
    ∃ entries, entries? v = some entries ∧
      servicesOf (Scalar.field? "services" entries) = .ok s.services ∧
      zonesOf (Scalar.field? "zones" entries) = .ok s.zones ∧
      (Scalar.field? "all_zones" entries).any isTrue = s.allZones := by
  unfold ofValue
  rcases entries? v with _ | entries
  · simp
  · simp only [bind_eq_ok, Option.some.injEq, exists_eq_left']
    constructor
    · rintro ⟨services, hservices, zones, hzones, hs⟩
      cases hs
      exact ⟨hservices, hzones, rfl⟩
    · rintro ⟨hservices, hzones, hall⟩
      refine ⟨_, hservices, _, hzones, ?_⟩
      rw [hall]
      rfl

/-- A key that is set has the new value, and others have theirs. -/
theorem mem_setEntry {κ ν : Type} [DecidableEq κ] {k : κ} {v : ν} {es : List (κ × ν)} {e : κ × ν}
    (h : e ∈ Table.setEntry k v es) : e = (k, v) ∨ e ∈ es := by
  induction es with
  | nil => exact .inl (List.mem_singleton.1 h)
  | cons e' es ih =>
      obtain ⟨k', v'⟩ := e'
      rw [Table.setEntry] at h
      split at h
      · rename_i hk
        subst hk
        rcases List.mem_cons.1 h with h | h
        · exact .inl h
        · exact .inr (List.mem_cons_of_mem _ h)
      · rcases List.mem_cons.1 h with h | h
        · exact .inr (h ▸ List.mem_cons_self)
        · exact (ih h).imp_right (List.mem_cons_of_mem _)

/-- **Services are put in only once their short forms have been read.** -/
theorem isAccepted_servicesFrom {done services : Table WideText (List WideText)}
    {entries : List (Scalar × α)} (hdone : ∀ e ∈ done.entries, IsAccepted e.2)
    (h : servicesFrom done entries = .ok services) : ∀ e ∈ services.entries, IsAccepted e.2 := by
  induction entries generalizing done with
  | nil =>
      cases h
      exact hdone
  | cons entry entries ih =>
      obtain ⟨specs, -, h⟩ := bind_eq_ok.1 h
      obtain ⟨name, -, h⟩ := bind_eq_ok.1 h
      rcases hds : definitionsOf specs with e | ds
      · rw [hds] at h
        cases h
      · rw [hds] at h
        apply ih ?_ h
        intro e he
        rcases mem_setEntry he with rfl | he
        · exact ⟨ds, hds⟩
        · exact hdone e he

/-- The services of loaded settings have short forms that can be read. -/
theorem isAccepted_of_ofValue (h : ofValue v = .ok s) :
    ∀ e ∈ s.services.entries, IsAccepted e.2 := by
  obtain ⟨entries, -, hservices, -⟩ := ofValue_eq_ok_iff.1 h
  unfold servicesOf at hservices
  have hnone : ∀ e ∈ (Table.empty : Table WideText (List WideText)).entries, IsAccepted e.2 := nofun
  split at hservices
  · rw [← Except.ok.inj hservices]
    exact hnone
  · split at hservices
    · exact isAccepted_servicesFrom hnone hservices
    · cases hservices

/-! ## Normal settings -/

/-- Settings as they are when they have been loaded. -/
structure IsNormal (s : Settings) : Prop where
  /-- There are zones. -/
  zones : s.zones ≠ []
  /-- The short forms of all services can be read. -/
  services : ∀ e ∈ s.services.entries, IsAccepted e.2

/-- A value that counts as true and can be a list has texts. -/
theorem textsOf_ne_nil {v : Value} {texts : List WideText} (htrue : v.isTrue = true)
    (h : textsOf v = .ok texts) : texts ≠ [] := by
  unfold textsOf at h
  split at h
  · cases h
    exact List.cons_ne_nil _ _
  · rename_i items _ hitems
    have hne : items ≠ [] := by
      rintro rfl
      cases v with
      | scalar s =>
          cases s with
          | bytes bs =>
              rcases bs with _ | ⟨b, bs⟩
              · cases htrue
              · cases hitems
          | _ => cases hitems
      | list items =>
          cases hitems
          cases htrue
      | set items =>
          rcases items with _ | ⟨s, items⟩
          · cases htrue
          · cases hitems
      | mapping entries =>
          rcases entries with _ | ⟨e, entries⟩
          · cases htrue
          · cases hitems
      | _ => cases hitems
    obtain ⟨item, items, rfl⟩ := List.exists_cons_of_ne_nil hne
    rw [List.mapM_cons, bind_eq_ok] at h
    obtain ⟨text, -, h⟩ := h
    obtain ⟨texts', -, h⟩ := bind_eq_ok.1 h
    cases h
    exact List.cons_ne_nil _ _
  · cases h

/-- **Settings that are loaded from a value are normal.** -/
theorem isNormal_of_ofValue {v : Value} (h : ofValue v = .ok s) : s.IsNormal := by
  refine ⟨?_, isAccepted_of_ofValue h⟩
  obtain ⟨entries, -, -, hzones, -⟩ := ofValue_eq_ok_iff.1 h
  unfold zonesOf at hzones
  split at hzones
  · rw [← Except.ok.inj hzones]
    exact List.cons_ne_nil _ _
  · rename_i v' hv'
    exact textsOf_ne_nil (Option.filter_eq_some_iff.1 hv').2 hzones

end Settings

end ZoneFirewall
