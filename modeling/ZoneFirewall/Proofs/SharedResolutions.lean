import ZoneFirewall.Proofs.Compilation
import ZoneFirewall.Script.Printer

/-!
# Sections of a script

The address lists and the rules of some policies can be made one without the other, or together as a
script. Both resolve the same references. Made together they share what has been resolved, from the
first list to the last rule; made alone they start with nothing. All of this comes to the same as
resolving a reference afresh wherever it is used.

* `Configuration.listsBy`, `Configuration.rulesBy`, `Configuration.scriptBy`: the sections and the
  script, with any way to look a reference up.
* `Configuration.lookUp`: looks a reference up in a memory that grows as references are resolved. A
  failure is not remembered.
* `Configuration.IsRight`: that a memory holds nothing but what references resolve to.
  `Configuration.Agrees`: that a step comes to a given result from every right memory, and leaves a
  right one. `agrees_lookUp`: **looking up agrees with resolving.** `agrees_listsBy`,
  `agrees_rulesBy`, `agrees_scriptBy`: so do whole sections and scripts.
* `script_of_sections`: **a script is its two sections**, and what is shared between them is of no
  account.
-/

namespace ZoneFirewall

open Text

/-- Lines, of which there is one at least, stand between line feeds, and another one ends the last.
-/
theorem Text.joinLines_cons (line : String) (lines : List String) :
    joinLines (line :: lines) = "\n".intercalate (line :: lines) ++ "\n" := by
  induction lines generalizing line with
  | nil => simp [joinLines, String.intercalate_singleton]
  | cons next lines ih =>
      have hfirst : joinLines (line :: next :: lines)
          = line ++ "\n" ++ joinLines (next :: lines) := by
        apply String.toList_injective
        simp [joinLines]
      rw [hfirst, ih, String.intercalate_cons_cons]
      simp only [String.append_assoc]

/-- A script is written as its lines between line feeds, with one at the end. -/
theorem Script.text_eq_intercalate (s : Script) :
    s.text = "\n".intercalate
      (listsHeader :: listLines s.lists ++ ["", "", filterHeader] ++ ruleLines s.blocks) ++ "\n" :=
  joinLines_cons _ _

namespace Configuration

variable {c : Configuration} {policies : List Policy}

/-! ## Sections with any way to look references up -/

section lookup

variable {m : Type → Type} [Monad m] (look : Reference → m (List Resolved))

/-- The address lists of some policies. -/
def listsBy (policies : List Policy) : m Lists :=
  (activeReferences policies).foldlM (fun l r => do return l.add r (← look r)) {}

/-- The endpoints of references. -/
def endpointsBy (refs : List Reference) : m (List Endpoint) := do
  let found ← refs.mapM fun r => return Endpoint.ofResolved? r (← look r)
  let found := found.filterMap id
  return found.filter (!·.isList) ++ found.filter (·.isList)

variable [MonadLiftT (Except CompileError) m]

/-- The rules of a policy. -/
def policyRulesBy (c : Configuration) (p : Policy) : m PolicyRules := do
  let sources ← endpointsBy look p.sourceReferences
  let destinations ← endpointsBy look p.destinationReferences
  let rules ← p.services.mapM fun service =>
    (liftM (c.serviceRules p sources destinations service) : m (List Rule))
  return ⟨p.describe, rules.flatten⟩

/-- The rules of some policies. -/
def rulesBy (c : Configuration) (policies : List Policy) : m (List PolicyRules) :=
  (active policies).mapM (policyRulesBy look c)

/-- The script of some policies, both sections with the same way to look references up. -/
def scriptBy (c : Configuration) (policies : List Policy) : m Script := do
  let l ← listsBy look policies
  let blocks ← rulesBy look c policies
  return {
    lists := l.entries, blocks, diagnostics := l.diagnostics, listEntryCount := l.entryCount,
    ruleCount := countRules blocks }

end lookup

/-! ### Resolving afresh -/

/-- Without a memory the lists are the ones of the script. -/
theorem listsBy_resolve :
    listsBy c.resolve policies = c.listsFrom (c.resolutions policies) policies := by
  simp only [listsFrom, addReferences, valueOf_resolutions]
  rfl

/-- So are the endpoints. -/
theorem endpointsBy_resolve (refs : List Reference) :
    endpointsBy c.resolve refs = c.endpoints (c.resolutions policies) refs := by
  simp only [endpoints, valueOf_resolutions]
  rfl

/-- So are the rules. -/
theorem rulesBy_resolve : rulesBy c.resolve c policies = c.filterRules policies := by
  have hpolicy : policyRulesBy c.resolve c = c.policyRules (c.resolutions policies) := by
    funext p
    unfold policyRulesBy policyRules
    rw [endpointsBy_resolve, endpointsBy_resolve]
    rfl
  rw [filterRules, rulesFrom, rulesBy, hpolicy]

/-- The script with each reference resolved wherever it is used. -/
theorem scriptBy_resolve : scriptBy c.resolve c policies = c.compile policies := by
  unfold scriptBy
  rw [listsBy_resolve, rulesBy_resolve]
  rfl

/-! ## Looking up in a growing memory -/

/-- What some references have been resolved to. -/
abbrev Memory := Table Reference (List Resolved)

/-- A step that may fail, with a memory. -/
abbrev Remembering := StateT Memory (Except CompileError)

/-- Looks a reference up in the memory; it is resolved, and remembered, if it is not there. -/
def lookUp (c : Configuration) (r : Reference) : Remembering (List Resolved) := do
  match (← get).get? r with
  | some items => return items
  | none =>
    let items ← (c.resolve r : Except CompileError (List Resolved))
    modify fun known => known.insert r items
    return items

/-- A memory is right: it holds nothing but what references resolve to. -/
def IsRight (c : Configuration) (known : Memory) : Prop :=
  ∀ r items, known.get? r = some items → c.resolve r = .ok items

/-- The empty memory is right: there is nothing in it. -/
theorem isRight_empty : c.IsRight .empty := by
  intro r items h
  cases h

/-- A memory stays right with one more reference and what it resolves to. -/
theorem IsRight.insert {known : Memory} {r : Reference} {items : List Resolved}
    (h : c.IsRight known) (hr : c.resolve r = .ok items) : c.IsRight (known.insert r items) := by
  intro r' items' h'
  rw [Table.get?_insert] at h'
  split at h'
  · rename_i heq
    rw [← heq, hr, Option.some.inj h']
  · exact h r' items' h'

/-- What a step comes to is a given result, with a right memory. -/
inductive Comes (c : Configuration) {α : Type} :
    Except CompileError (α × Memory) → Except CompileError α → Prop where
  /-- Both fail, and with the same error. -/
  | error (e : CompileError) : Comes c (.error e) (.error e)
  /-- Both have the same result, and the memory is right. -/
  | ok (a : α) {after : Memory} : c.IsRight after → Comes c (.ok (a, after)) (.ok a)

/-- From every right memory, a step comes to a given result and leaves a right memory. -/
def Agrees (c : Configuration) {α : Type} (x : Remembering α) (y : Except CompileError α) : Prop :=
  ∀ known, c.IsRight known → c.Comes (x.run known) y

section agrees

variable {α β σ : Type}

/-- From a right memory, what agrees comes to the same result. -/
theorem Agrees.run' {x : Remembering α} {y : Except CompileError α} (h : c.Agrees x y)
    {known : Memory} (hknown : c.IsRight known) : x.run' known = y := by
  have hcomes := h known hknown
  rw [StateT.run'_eq]
  cases hrun : x.run known with
  | error e =>
      rw [hrun] at hcomes
      cases hcomes
      rfl
  | ok out =>
      rw [hrun] at hcomes
      cases hcomes
      rfl

/-- A result that is given is the same with a memory. -/
theorem agrees_pure (a : α) : c.Agrees (pure a) (pure a) := by
  intro known hknown
  exact .ok a hknown

/-- A step without a memory agrees with itself. -/
theorem agrees_liftM (y : Except CompileError α) : c.Agrees (liftM y) y := by
  intro known hknown
  cases y with
  | error e => exact .error e
  | ok a => exact .ok a hknown

/-- Two steps agree if both do. -/
theorem Agrees.bind {x : Remembering α} {y : Except CompileError α} {f : α → Remembering β}
    {g : α → Except CompileError β} (hx : c.Agrees x y) (hf : ∀ a, c.Agrees (f a) (g a)) :
    c.Agrees (x >>= f) (y >>= g) := by
  intro known hknown
  have hcomes := hx known hknown
  rw [StateT.run_bind]
  cases hrun : x.run known with
  | error e =>
      rw [hrun] at hcomes
      cases hcomes
      exact .error e
  | ok out =>
      rw [hrun] at hcomes
      cases hcomes with
      | ok a hafter => exact hf a _ hafter

/-- A step for each item agrees if it does for every item. -/
theorem Agrees.mapM {f : α → Remembering β} {g : α → Except CompileError β}
    (h : ∀ a, c.Agrees (f a) (g a)) (items : List α) : c.Agrees (items.mapM f) (items.mapM g) := by
  induction items with
  | nil => exact agrees_pure []
  | cons a items ih =>
      rw [List.mapM_cons, List.mapM_cons]
      apply Agrees.bind (h a)
      intro b
      apply Agrees.bind ih
      intro bs
      exact agrees_pure (b :: bs)

/-- A state goes through steps that agree to the same end. -/
theorem Agrees.foldlM {f : σ → α → Remembering σ} {g : σ → α → Except CompileError σ}
    (h : ∀ s a, c.Agrees (f s a) (g s a)) (items : List α) (s : σ) :
    c.Agrees (items.foldlM f s) (items.foldlM g s) := by
  induction items generalizing s with
  | nil => exact agrees_pure s
  | cons a items ih =>
      rw [List.foldlM_cons, List.foldlM_cons]
      exact Agrees.bind (h s a) ih

end agrees

/-- Looking a reference up, in one step. -/
theorem run_lookUp (c : Configuration) (r : Reference) (known : Memory) :
    (c.lookUp r).run known =
      match known.get? r with
      | some items => .ok (items, known)
      | none => (c.resolve r).map fun items => (items, known.insert r items) := by
  unfold lookUp
  rw [StateT.run_bind]
  show StateT.run (match known.get? r with | some items => _ | none => _) known = _
  cases known.get? r with
  | some items => rfl
  | none =>
      show StateT.run (liftM (c.resolve r) >>= _) known = _
      cases c.resolve r with
      | error e => rfl
      | ok items => rfl

/-- **Looking a reference up agrees with resolving it.** -/
theorem agrees_lookUp (c : Configuration) (r : Reference) :
    c.Agrees (c.lookUp r) (c.resolve r) := by
  intro known hknown
  rw [run_lookUp]
  cases hget : known.get? r with
  | some items =>
      rw [hknown r items hget]
      exact .ok items hknown
  | none =>
      cases hr : c.resolve r with
      | error e => exact .error e
      | ok items => exact .ok items (hknown.insert hr)

/-! ### Sections with a memory -/

/-- The lists are the same with a memory. -/
theorem agrees_listsBy (c : Configuration) (policies : List Policy) :
    c.Agrees (listsBy c.lookUp policies) (listsBy c.resolve policies) := by
  apply Agrees.foldlM
  intro l r
  apply Agrees.bind (agrees_lookUp c r)
  intro items
  exact agrees_pure _

/-- So are the endpoints of references. -/
theorem agrees_endpointsBy (c : Configuration) (refs : List Reference) :
    c.Agrees (endpointsBy c.lookUp refs) (endpointsBy c.resolve refs) := by
  apply Agrees.bind
  · apply Agrees.mapM
    intro r
    apply Agrees.bind (agrees_lookUp c r)
    intro items
    exact agrees_pure _
  · intro found
    exact agrees_pure _

/-- So is the block of a policy. -/
theorem agrees_policyRulesBy (c : Configuration) (p : Policy) :
    c.Agrees (policyRulesBy c.lookUp c p) (policyRulesBy c.resolve c p) := by
  apply Agrees.bind (agrees_endpointsBy c _)
  intro sources
  apply Agrees.bind (agrees_endpointsBy c _)
  intro destinations
  apply Agrees.bind
  · apply Agrees.mapM
    intro service
    exact agrees_liftM _
  · intro rules
    exact agrees_pure _

/-- So are all rules. -/
theorem agrees_rulesBy (c : Configuration) (policies : List Policy) :
    c.Agrees (rulesBy c.lookUp c policies) (rulesBy c.resolve c policies) :=
  Agrees.mapM (agrees_policyRulesBy c) _

/-- Both sections agree although the second starts with what the first has remembered. -/
theorem agrees_scriptBy (c : Configuration) (policies : List Policy) :
    c.Agrees (scriptBy c.lookUp c policies) (scriptBy c.resolve c policies) := by
  apply Agrees.bind (agrees_listsBy c policies)
  intro l
  apply Agrees.bind (agrees_rulesBy c policies)
  intro blocks
  exact agrees_pure _

/-! ## A script and its sections -/

/-- What compiling comes to is what the sections come to, the address lists first. -/
theorem compile_eq_sections (c : Configuration) (policies : List Policy) :
    (c.compile policies).map (fun script => (script.lists, script.diagnostics, script.blocks)) = do
      let (entries, diagnostics) ← c.addressLists policies
      let blocks ← c.filterRules policies
      return (entries, diagnostics, blocks) := by
  rw [← scriptBy_resolve, scriptBy, listsBy_resolve, rulesBy_resolve, addressLists]
  cases c.listsFrom (c.resolutions policies) policies with
  | error e => rfl
  | ok l =>
      cases c.filterRules policies with
      | error e => rfl
      | ok blocks => rfl

/-- **A script is its two sections.** It can be made if both can be; it then has their lines behind
two headers, with two empty lines between, and the diagnostics of the address lists. Otherwise it
fails as the address lists or, if these can be made, as the rules. Resolving a reference wherever it
is used, and looking it up in what is known, give the same sections and the same script, whatever is
known beforehand as long as it is right. -/
theorem script_of_sections (c : Configuration) (policies : List Policy) :
    ((∃ script, c.compile policies = .ok script) ↔
      (∃ lists, c.addressLists policies = .ok lists) ∧
        ∃ blocks, c.filterRules policies = .ok blocks) ∧
    (∀ script entries diagnostics blocks, c.compile policies = .ok script →
      c.addressLists policies = .ok (entries, diagnostics) → c.filterRules policies = .ok blocks →
        script.text = "\n".intercalate (listsHeader :: listLines entries ++ ["", "", filterHeader]
          ++ ruleLines blocks) ++ "\n" ∧
        script.diagnostics = diagnostics) ∧
    (∀ e, c.addressLists policies = .error e → c.compile policies = .error e) ∧
    (∀ lists e, c.addressLists policies = .ok lists → c.filterRules policies = .error e →
      c.compile policies = .error e) ∧
    ((listsBy c.resolve policies).map (fun l => (l.entries, l.diagnostics))
        = c.addressLists policies ∧
      rulesBy c.resolve c policies = c.filterRules policies ∧
      scriptBy c.resolve c policies = c.compile policies) ∧
    c.IsRight .empty ∧
    ∀ known, c.IsRight known →
      ((listsBy c.lookUp policies).run' known).map (fun l => (l.entries, l.diagnostics))
        = c.addressLists policies ∧
      (rulesBy c.lookUp c policies).run' known = c.filterRules policies ∧
      (scriptBy c.lookUp c policies).run' known = c.compile policies := by
  have hsections := compile_eq_sections c policies
  have hlists : (listsBy c.resolve policies).map (fun l => (l.entries, l.diagnostics))
      = c.addressLists policies := by
    rw [listsBy_resolve]
    rfl
  refine ⟨⟨?_, ?_⟩, ?_, ?_, ?_, ⟨hlists, rulesBy_resolve, scriptBy_resolve⟩, isRight_empty, ?_⟩
  · rintro ⟨script, hscript⟩
    rw [hscript] at hsections
    obtain ⟨lists, hl, hrest⟩ := bind_eq_ok.1 hsections.symm
    obtain ⟨blocks, hb, -⟩ := bind_eq_ok.1 hrest
    exact ⟨⟨lists, hl⟩, blocks, hb⟩
  · rintro ⟨⟨lists, hl⟩, blocks, hb⟩
    rw [hl, hb] at hsections
    obtain ⟨script, hscript, -⟩ := map_eq_ok.1 hsections
    exact ⟨script, hscript⟩
  · intro script entries diagnostics blocks hscript hl hb
    rw [hscript, hl, hb] at hsections
    injection hsections with hparts
    injection hparts with hentries hparts
    injection hparts with hdiagnostics hblocks
    rw [Script.text_eq_intercalate, hentries, hblocks]
    exact ⟨rfl, hdiagnostics⟩
  · intro e hl
    rw [hl] at hsections
    exact map_eq_error.1 hsections
  · intro lists e hl hb
    rw [hl, hb] at hsections
    exact map_eq_error.1 hsections
  · intro known hknown
    rw [(agrees_listsBy c policies).run' hknown, (agrees_rulesBy c policies).run' hknown,
      (agrees_scriptBy c policies).run' hknown]
    exact ⟨hlists, rulesBy_resolve, scriptBy_resolve⟩

end Configuration

end ZoneFirewall
