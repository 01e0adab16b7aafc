import ZoneFirewall.Proofs.LeadingComments
import ZoneFirewall.Proofs.LoadedSettings
import ZoneFirewall.Proofs.ShownOutlines
import ZoneFirewall.Proofs.WrittenPages

/-!
# Settings written and loaded again

Loading brings settings into a normal form, whatever value they come from: the usual zone where none
is named, lists where there were single texts. That form is written and loaded again as it is. What
a document holds is looked at position by position, so that loading a document is first reduced to
loading a value; and the comment in front of a document is passed over by the lexer.

* `Settings.ofValue_of_shows`: settings are loaded from a position as from the mapping there.
* `Settings.ofValue_outline`: **normal settings are loaded from what they are written for.**
  `Settings.ofText_of_load`: and from a text whose value is that.
* `Settings.ofText_document`: the comment in front of a document does not matter.
* `Settings.roundTrip_of_ofValue`: **loaded settings are normal and survive the round trip.**
-/

namespace ZoneFirewall

open Text Yaml

/-! ## Loading what a position shows -/

namespace Settings

open Loadable

variable {p : Position} {o : Outline} {s : Settings}

/-- A position that shows an outline has the texts of its value. -/
theorem textsOf_of_shows (h : p.Shows o) : textsOf p = textsOf o.value := by
  have htext : text? p = text? o.value := h.text?
  have hitems : items? p = items? o.value := h.items?
  unfold textsOf
  rw [htext, hitems]

/-- It has the short forms of the value. -/
theorem specsOf_of_shows (h : p.Shows o) : specsOf p = specsOf o.value := by
  have htext : text? p = text? o.value := h.text?
  have htrue : isTrue p = isTrue o.value := h.isTrue
  unfold specsOf
  rw [htext, htrue, textsOf_of_shows h]

/-- So it is with services, one after another. -/
theorem servicesFrom_of_shows {ps : List (Scalar × Position)} {es : List (WideText × Outline)}
    (h : List.Forall₂ (fun m e => m.1 = .text e.1 ∧ m.2.Shows e.2) ps es)
    (done : Table WideText (List WideText)) :
    servicesFrom done ps = servicesFrom done (es.map Outline.entryValue) := by
  induction h generalizing done with
  | nil => rfl
  | @cons m e ps es hentry _ ih =>
      obtain ⟨name, value⟩ := m
      obtain ⟨rfl, hshows⟩ := hentry
      rw [List.map_cons, Outline.entryValue, servicesFrom, servicesFrom, specsOf_of_shows hshows]
      simp only [ih]

/-- What is made of the field of a name is the same if the same is made of what is shown and of
where it is shown. -/
theorem field?_of_shows {β : Type} {f : Option Position → β} {g : Option Value → β}
    (hnone : f none = g none) (hsome : ∀ p o, p.Shows o → f (some p) = g (some o.value))
    {ps : List (Scalar × Position)} {es : List (WideText × Outline)}
    (h : List.Forall₂ (fun m e => m.1 = .text e.1 ∧ m.2.Shows e.2) ps es) (name : String) :
    f (Scalar.field? name ps) = g (Scalar.field? name (es.map Outline.entryValue)) := by
  unfold Scalar.field?
  induction h with
  | nil => exact hnone
  | @cons m e ps es hentry _ ih =>
      obtain ⟨key, p⟩ := m
      obtain ⟨rfl, hshows⟩ := hentry
      rw [List.map_cons, List.find?_cons, List.find?_cons]
      by_cases hkey : Scalar.sameKey (.text e.1) (.text name)
      · simp only [hkey, Outline.entryValue]
        exact hsome p e.2 hshows
      · simp only [hkey, Outline.entryValue]
        exact ih

/-- A position has the zones of the value. -/
theorem zonesOf_of_shows (h : p.Shows o) : zonesOf (some p) = zonesOf (some o.value) := by
  have htrue : isTrue p = isTrue o.value := h.isTrue
  unfold zonesOf
  rw [Option.filter_some, Option.filter_some, htrue]
  by_cases hfalse : isTrue o.value
  · rw [if_pos hfalse, if_pos hfalse]
    exact textsOf_of_shows h
  · rw [if_neg hfalse, if_neg hfalse]

/-- It has the services of the value. -/
theorem servicesOf_of_shows (h : p.Shows o) : servicesOf (some p) = servicesOf (some o.value) := by
  have htrue : isTrue p = isTrue o.value := h.isTrue
  unfold servicesOf
  rw [Option.filter_some, Option.filter_some, htrue]
  by_cases hfalse : isTrue o.value
  · rw [if_pos hfalse, if_pos hfalse]
    cases o with
    | mapping es =>
        obtain ⟨ps, hps, hentries⟩ := h.entries?
        have hposition : entries? p = some ps := hps
        have hvalue : entries? (Outline.mapping es).value = some (es.map Outline.entryValue) :=
          Outline.entries?_value_mapping es
        simp only [hposition, hvalue]
        exact servicesFrom_of_shows hentries .empty
    | _ =>
        have hnone : entries? p = none := h.entries?_eq_none rfl
        simp only [hnone]
        rfl
  · rw [if_neg hfalse, if_neg hfalse]

/-- **Settings are loaded from a position as from the mapping that it shows.** -/
theorem ofValue_of_shows {es : List (WideText × Outline)} (h : p.Shows (.mapping es)) :
    ofValue p = ofValue (Outline.mapping es).value := by
  obtain ⟨ps, hps, hentries⟩ := h.entries?
  have hposition : entries? p = some ps := hps
  have hvalue : entries? (Outline.mapping es).value = some (es.map Outline.entryValue) :=
    Outline.entries?_value_mapping es
  have hservices := field?_of_shows (f := servicesOf) (g := servicesOf) rfl
    (fun _ _ hq => servicesOf_of_shows hq) hentries "services"
  have hzones := field?_of_shows (f := zonesOf) (g := zonesOf) rfl
    (fun _ _ hq => zonesOf_of_shows hq) hentries "zones"
  have hall := field?_of_shows (f := (·.any isTrue)) (g := (·.any isTrue)) rfl
    (fun _ _ hq => hq.isTrue) hentries "all_zones"
  unfold ofValue
  simp only [hposition, hvalue, hservices, hzones, hall]

/-! ## Loading what has been written -/

/-- A text is its own text. -/
theorem textOf_text (text : WideText) : textOf (.scalar (.text text)) = .ok text := by
  unfold textOf
  rw [if_neg (by simp [Value.isDeep, Value.depth, Value.depthLimit]),
    if_neg (by simp [Value.isLong, Scalar.isLong])]
  rfl

/-- Texts that are written as a list are its texts. -/
theorem textsOf_listOutline (texts : List WideText) :
    textsOf (listOutline texts).value = .ok texts := by
  rw [listOutline, Outline.value_list, List.map_map]
  show (texts.map _).mapM textOf = .ok texts
  induction texts with
  | nil => rfl
  | cons text texts ih =>
      have htext : textOf ((Outline.value ∘ Outline.text) text) = .ok text := textOf_text text
      rw [List.map_cons, List.mapM_cons, htext, ih]
      rfl

/-- A list is true if there are texts. -/
theorem isTrue_listOutline (texts : List WideText) :
    (listOutline texts).value.isTrue = !texts.isEmpty := by
  rw [listOutline, Outline.value_list, Value.isTrue, List.isEmpty_map, List.isEmpty_map]

/-- Short forms that are written as a list are its short forms. -/
theorem specsOf_listOutline (specs : List WideText) :
    specsOf (listOutline specs).value = .ok specs := by
  have htrue : isTrue (listOutline specs).value = !specs.isEmpty := isTrue_listOutline specs
  unfold specsOf
  rw [htrue, textsOf_listOutline]
  rcases specs with _ | ⟨spec, specs⟩
  · rfl
  · exact if_pos (Bool.or_true _)

/-- A key that is not there is set at the end. -/
theorem setEntry_of_not_mem {κ ν : Type} [DecidableEq κ] {k : κ} {es : List (κ × ν)}
    (h : k ∉ es.map Prod.fst) (v : ν) : Table.setEntry k v es = es ++ [(k, v)] := by
  induction es with
  | nil => rfl
  | cons e es ih =>
      obtain ⟨k', v'⟩ := e
      rw [List.map_cons, List.mem_cons, not_or] at h
      rw [Table.setEntry, if_neg (Ne.symm h.1), ih h.2, List.cons_append]

/-- The entry of a service as it is written. -/
def serviceOutline (e : WideText × List WideText) : WideText × Outline := (e.1, listOutline e.2)

/-- **Services that are written are put in one after another** behind those that are there. -/
theorem servicesFrom_serviceOutline {done : Table WideText (List WideText)}
    {entries : List (WideText × List WideText)}
    (hnodup : ((done.entries ++ entries).map Prod.fst).Nodup)
    (haccepted : ∀ e ∈ entries, IsAccepted e.2) :
    ∃ services, servicesFrom done ((entries.map serviceOutline).map Outline.entryValue)
        = .ok services ∧ services.entries = done.entries ++ entries := by
  induction entries generalizing done with
  | nil => exact ⟨done, rfl, (List.append_nil _).symm⟩
  | cons e entries ih =>
      obtain ⟨name, specs⟩ := e
      obtain ⟨⟨ds, hds⟩, hrest⟩ := List.forall_mem_cons.1 haccepted
      have hnew : name ∉ done.entries.map Prod.fst := by
        intro hmem
        rw [List.map_append, List.nodup_append] at hnodup
        exact hnodup.2.2 _ hmem _ List.mem_cons_self rfl
      have hinsert : (done.insert name specs).entries = done.entries ++ [(name, specs)] :=
        setEntry_of_not_mem hnew specs
      have hall : (done.insert name specs).entries ++ entries
          = done.entries ++ (name, specs) :: entries := by
        rw [hinsert, List.append_assoc]
        rfl
      obtain ⟨services, hservices, hentries⟩ := ih (hall ▸ hnodup) hrest
      refine ⟨services, ?_, hentries.trans hall⟩
      rw [List.map_cons, List.map_cons, serviceOutline, Outline.entryValue, servicesFrom,
        specsOf_listOutline, textOf_text]
      dsimp only [bind, Except.bind] at hds ⊢
      rw [hds]
      exact hservices

/-- Tables with the same entries are the same. -/
theorem eq_of_entries_eq {κ ν : Type} {t t' : Table κ ν} (h : t.entries = t'.entries) : t = t' := by
  cases t
  cases t'
  cases h
  rfl

/-- Services that are written are loaded again. -/
theorem servicesOf_serviceOutline {services : Table WideText (List WideText)}
    (h : ∀ e ∈ services.entries, IsAccepted e.2) :
    servicesOf (some (Outline.mapping (services.entries.map serviceOutline)).value)
      = .ok services := by
  have hvalue := Outline.entries?_value_mapping (services.entries.map serviceOutline)
  have hnodup : (((Table.empty : Table WideText (List WideText)).entries ++ services.entries).map
      Prod.fst).Nodup := services.nodup
  obtain ⟨loaded, hloaded, hentries⟩ := servicesFrom_serviceOutline hnodup h
  obtain rfl : loaded = services := eq_of_entries_eq hentries
  unfold servicesOf
  rw [Option.filter_some]
  by_cases hempty : loaded.entries = []
  · have hnone : loaded = .empty := eq_of_entries_eq hempty
    rw [hnone]
    rfl
  · have htrue : isTrue (Outline.mapping (loaded.entries.map serviceOutline)).value := by
      rw [Outline.value_mapping]
      show (!((loaded.entries.map serviceOutline).map Outline.entryValue).isEmpty) = true
      simpa using hempty
    have hposition : entries? (Outline.mapping (loaded.entries.map serviceOutline)).value = _ :=
      hvalue
    rw [if_pos htrue]
    simp only [hposition]
    exact hloaded

/-- Zones that are written are loaded again, if there are any. -/
theorem zonesOf_listOutline {zones : List WideText} (h : zones ≠ []) :
    zonesOf (some (listOutline zones).value) = .ok zones := by
  have htrue : isTrue (listOutline zones).value = true := by
    refine (isTrue_listOutline zones).trans ?_
    simpa using h
  unfold zonesOf
  rw [Option.filter_some, if_pos htrue]
  exact textsOf_listOutline zones

/-- The settings as entries. -/
def outlineEntries (s : Settings) : List (WideText × Outline) :=
  [("zones", listOutline s.zones), ("all_zones", .truth s.allZones),
    ("services", .mapping (s.services.entries.map serviceOutline))]

/-- The fields that settings are written in. -/
theorem field?_outlineEntries (s : Settings) :
    let entries := s.outlineEntries.map Outline.entryValue
    Scalar.field? "zones" entries = some (listOutline s.zones).value ∧
      Scalar.field? "all_zones" entries = some (Outline.truth s.allZones).value ∧
      Scalar.field? "services" entries
        = some (Outline.mapping (s.services.entries.map serviceOutline)).value :=
  ⟨rfl, rfl, rfl⟩

/-- **Normal settings are loaded as they are** from what they are written for. -/
theorem ofValue_outline (h : s.IsNormal) : ofValue s.outline.value = .ok s := by
  obtain ⟨hzones, hall, hservices⟩ := field?_outlineEntries s
  refine ofValue_eq_ok_iff.2 ⟨_, Outline.entries?_value_mapping s.outlineEntries, ?_, ?_, ?_⟩
  · rw [hservices]
    exact servicesOf_serviceOutline h.services
  · rw [hzones]
    exact zonesOf_listOutline h.zones
  · rw [hall]
    rfl

/-- The value that is loaded of a text. -/
def load (text : String) : Except DocumentError (Option Value) :=
  (Document.ofText? text).map fun d => d.map (·.whole.value)

/-- **Normal settings are loaded from a text whose value is what they are written for.** -/
theorem ofText_of_load {text : String} (hs : s.IsNormal)
    (h : load text = .ok (some s.outline.value)) : ofText text = .ok s := by
  obtain ⟨d, hd, hvalue⟩ := map_eq_ok.1 h
  obtain ⟨document, rfl, hwhole⟩ := Option.map_eq_some_iff.1 hvalue
  have hshows : document.whole.Shows (.mapping s.outlineEntries) := hwhole
  have hcell := hshows.cell
  have hloaded : ofValue document.whole = .ok s :=
    (ofValue_of_shows hshows).trans (ofValue_outline hs)
  unfold ofText
  rw [hd]
  dsimp only [Document.whole] at hcell hloaded ⊢
  generalize document.cell document.root = cell at hcell
  cases hcell with
  | mapping => exact hloaded

/-! ## The comment in front -/

/-- A document of settings begins with the name of its first field. -/
theorem head?_render_outline (s : Settings) : s.outline.render.toList.head? = some 'z' := by
  have hfirst : (((({} : Page).indent 0).scalar indentWidth true "zones").mark [':'] false
      false).text.toList.head? = some 'z' := by decide +kernel
  have hsimple : isSimpleKey "zones" = true := by decide +kernel
  refine Page.Grows.head? ?_ hfirst
  show Page.Grows _ ((({} : Page).outline none false s.outline).indent 0)
  refine Page.Grows.trans ?_ (Page.grows_indent _ _)
  unfold outline Page.outline Page.entries
  dsimp only
  rw [if_pos hsimple]
  exact (Page.grows_outline _ _ _ _).trans (Page.grows_entries _ _ _)

/-- Texts that hold the same document hold the same settings. -/
theorem ofText_congr {text text' : String} (h : Document.ofText? text = Document.ofText? text') :
    ofText text = ofText text' := by
  unfold ofText
  rw [h]

/-- The comment in front of a document does not matter to it. -/
theorem ofText?_documentHeader {body : String} (hmark : body.toList.head? ≠ some '\ufeff') :
    Document.ofText? (documentHeader ++ body) = Document.ofText? body := by
  unfold documentHeader
  refine Document.ofText?_comments (fun line hline => ?_) hmark
  apply of_decide_eq_true
  revert line
  rw [← List.all_eq_true]
  decide +kernel

/-- The comment in front of a document does not change what is loaded. -/
theorem ofText_document (s : Settings) : ofText s.document = ofText s.outline.render := by
  have hmark : s.outline.render.toList.head? ≠ some '\ufeff' := by
    rw [head?_render_outline]
    decide
  exact ofText_congr (ofText?_documentHeader hmark)

/-! ## The round trip -/

/-- Whether a value is loaded that an outline is written for. -/
instance (r : Except DocumentError (Option Value)) (o : Outline) :
    Decidable (r = .ok (some o.value)) :=
  match r with
  | .ok (some v) => decidable_of_iff (v = o.value) ⟨fun h => h ▸ rfl, fun h =>
      Option.some.inj (Except.ok.inj h)⟩
  | .ok none => isFalse nofun
  | .error _ => isFalse nofun

/-- **Loaded settings are normal and survive the round trip.** Whatever value they come from, there
are zones, and each short form of a service can be read; loading the value that they are written for
gives them back, and so does loading their document, provided that what is written of a value is
read as that value. -/
theorem roundTrip_of_ofValue {v : Value} (h : ofValue v = .ok s) :
    s.zones ≠ [] ∧
      (∀ e ∈ s.services.entries, ∀ spec ∈ e.2, ∃ d, Definition.parseSpec spec = .ok d) ∧
      ofValue s.outline.value = .ok s ∧
      (load s.outline.render = .ok (some s.outline.value) → ofText s.document = .ok s) := by
  have hnormal := isNormal_of_ofValue h
  refine ⟨hnormal.zones, fun e he spec hspec => ?_, ofValue_outline hnormal, fun hload => ?_⟩
  · obtain ⟨ds, hds⟩ := hnormal.services e he
    have hmem : Definition.parseSpec spec ∈ ds.map .ok :=
      definitionsOf_eq_ok_iff.1 hds ▸ List.mem_map_of_mem hspec
    obtain ⟨d, -, hd⟩ := List.mem_map.1 hmem
    exact ⟨d, hd.symm⟩
  · rw [ofText_document]
    exact ofText_of_load hnormal hload

/-- A value that names no zones and has a text where a list is meant. -/
def looseSettings : Value :=
  .mapping [(.text "zones", .list []),
    (.text "services", .mapping [(.text "HTTP-ALT", .scalar (.text "tcp/8000-8001"))])]

/-- The document to start from is what such a value is written as, and it is loaded again. -/
theorem ofText_template :
    ofText template = .ok { services := .ofList [("HTTP-ALT", ["tcp/8000-8001"])] } := by
  have hvalue : ofValue looseSettings
      = .ok { services := .ofList [("HTTP-ALT", ["tcp/8000-8001"])] } := rfl
  unfold template
  exact (roundTrip_of_ofValue hvalue).2.2.2 (by decide +kernel)

end Settings

end ZoneFirewall
