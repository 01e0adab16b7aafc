import ZoneFirewall.Yaml.Printer

/-!
# Pages grow

What has been written on a page is never taken back. The text of an outline therefore begins with
whatever stands on the page after its first steps.

* `Page.Grows`: one page has the text of another and possibly more; `Grows.put`, `Grows.newLine` and
  the lemmas after them say so for everything that is written.
* `Page.grows_outline`, `Page.grows_items`, `Page.grows_entries`: **an outline is written after what
  stands there.**
-/

namespace ZoneFirewall.Yaml

open Text

namespace Page

/-- A page has the text of another one, and possibly more after that. -/
def Grows (p q : Page) : Prop := p.text.toList <+: q.text.toList

variable {p q r : Page}

/-- A page that is left as it is has lost nothing. -/
theorem Grows.refl (p : Page) : p.Grows p := List.prefix_refl _

/-- Nothing is lost step by step. -/
theorem Grows.trans (h : p.Grows q) (h' : q.Grows r) : p.Grows r := List.IsPrefix.trans h h'

/-- Nothing is lost either way. -/
theorem Grows.ite {c : Prop} [Decidable c] (h : p.Grows q) (h' : p.Grows r) :
    p.Grows (if c then q else r) := by
  split
  · exact h
  · exact h'

/-- Nothing is lost item by item. -/
theorem Grows.foldl {α : Type} {f : Page → α → Page} (hf : ∀ (q : Page) a, q.Grows (f q a))
    (l : List α) (h : p.Grows q) : p.Grows (l.foldl f q) := by
  induction l generalizing q with
  | nil => exact h
  | cons a l ih => exact ih (h.trans (hf q a))

/-- The first character of a page stays its first character. -/
theorem Grows.head? {c : Char} (h : p.Grows q) (hc : p.text.toList.head? = some c) :
    q.text.toList.head? = some c := by
  obtain ⟨word, hword⟩ := List.head?_eq_some_iff.1 hc
  obtain ⟨more, hmore⟩ := h
  rw [← hmore, hword]
  rfl

/-! ## The smallest steps -/

/-- Characters are put at the end. -/
theorem grows_put (p : Page) (cs : List Char) : p.Grows (p.put cs) := by
  show p.text.toList <+: (p.text ++ String.ofList cs).toList
  rw [String.toList_append]
  exact List.prefix_append _ _

/-- So is the end of a line. -/
theorem grows_newLine (p : Page) (c : Char) : p.Grows (p.newLine c) := by
  show p.text.toList <+: (p.text.push c).toList
  rw [String.toList_push]
  exact List.prefix_append _ _

/-- So are the spaces in front of a line. -/
theorem grows_indent (p : Page) (column : Nat) : p.Grows (p.indent column) := by
  have hline : ∀ c : Prop, [Decidable c] → p.Grows (if c then p.newLine '\n' else p) := fun c _ =>
    .ite (grows_newLine p '\n') (.refl p)
  unfold indent
  refine Grows.ite ?_ (hline _)
  exact (hline _).trans (grows_put _ _)

/-- So is a mark. -/
theorem grows_mark (p : Page) (cs : List Char) (spaced block : Bool) :
    p.Grows (p.mark cs spaced block) := by
  have hput : p.Grows (if p.afterBlank || !spaced then p.put cs else p.put (' ' :: cs)) :=
    .ite (grows_put p _) (grows_put p _)
  exact hput

/-! ## Scalars -/

/-- So is a plain scalar. -/
theorem grows_plain (p : Page) (column : Nat) (mayFold : Bool) (cs : List Char) :
    p.Grows (p.plain column mayFold cs) := by
  refine Grows.foldl (fun q run => ?_) _ (Grows.ite (.refl p) (grows_put p _))
  cases run with
  | spaces n => exact .ite (grows_indent q column) (grows_put q _)
  | breaks cs => exact grows_put q cs
  | word cs => exact grows_put q cs

/-- So are empty lines in quotes. -/
theorem grows_quotedBreaks (p : Page) (column : Nat) (cs : List Char) :
    p.Grows (p.quotedBreaks column cs) := by
  have hfirst : p.Grows (if cs.head? = some '\n' then p.newLine '\n' else p) :=
    .ite (grows_newLine p _) (.refl p)
  exact (hfirst.foldl grows_newLine cs).trans (grows_indent _ column)

/-- So are the parts of a scalar in single quotes. -/
theorem grows_singleRuns (p : Page) (column : Nat) (mayFold atStart : Bool) (runs : List Run) :
    p.Grows (p.singleRuns column mayFold atStart runs) := by
  induction runs generalizing p atStart with
  | nil => exact .refl p
  | cons run runs ih =>
      refine Grows.trans ?_ (ih _ _)
      cases run with
      | spaces n => exact .ite (grows_indent p column) (grows_put p _)
      | breaks cs => exact grows_quotedBreaks p column cs
      | word cs => exact grows_put p _

/-- So is such a scalar. -/
theorem grows_single (p : Page) (column : Nat) (mayFold : Bool) (cs : List Char) :
    p.Grows (p.single column mayFold cs) :=
  ((grows_mark p _ _ _).trans (grows_singleRuns _ _ _ _ _)).trans (grows_mark _ _ _ _)

/-- So are the characters of a scalar in double quotes. -/
theorem grows_doublePoints (p : Page) (column : Nat) (mayFold atStart : Bool) (held : List Char)
    (points : List Nat) : p.Grows (p.doublePoints column mayFold atStart held points) := by
  induction points generalizing p atStart held with
  | nil => exact grows_put p held
  | cons n points ih =>
      have hescape : p.Grows (if standsInDouble n then p else (p.put held).put (escape n)) :=
        .ite (.refl p) ((grows_put p held).trans (grows_put _ _))
      unfold doublePoints
      refine hescape.trans (Grows.ite (Grows.trans ?_ (ih _ _ _)) (ih _ _ _))
      have hfold := (grows_put (if standsInDouble n then p else (p.put held).put (escape n))
        ((if standsInDouble n then held else []) ++ ['\\'])).trans (grows_indent _ column)
      exact .ite (hfold.trans (grows_put _ _)) hfold

/-- So is such a scalar. -/
theorem grows_double (p : Page) (column : Nat) (mayFold : Bool) (points : List Nat) :
    p.Grows (p.double column mayFold points) :=
  ((grows_mark p _ _ _).trans (grows_doublePoints _ _ _ _ _ _)).trans (grows_mark _ _ _ _)

/-- So is every scalar, whatever style is chosen for it. -/
theorem grows_scalar (p : Page) (column : Nat) (simpleKey : Bool) (text : WideText) :
    p.Grows (p.scalar column simpleKey text) := by
  unfold scalar
  cases styleOf simpleKey text with
  | plain => exact grows_plain p _ _ _
  | single => exact grows_single p _ _ _
  | double => exact grows_double p _ _ _

/-! ## Outlines -/

/-- A key and its colon are written after what stands there. -/
theorem grows_key (p : Page) (column : Nat) (key : WideText) :
    p.Grows (if isSimpleKey key then
        (p.scalar (column + indentWidth) true key).mark [':'] false false
      else (((p.mark ['?'] true true).scalar (column + indentWidth) false key).indent column).mark
        [':'] true true) :=
  .ite ((grows_scalar p _ _ _).trans (grows_mark _ _ _ _)) <|
    (((grows_mark p _ _ _).trans (grows_scalar _ _ _ _)).trans (grows_indent _ _)).trans
      (grows_mark _ _ _ _)

mutual

/-- **Nothing on a page is lost when an outline is written.** -/
theorem grows_outline (p : Page) (column : Option Nat) (underKey : Bool) :
    (o : Outline) → p.Grows (p.outline column underKey o)
  | .text s => grows_scalar p _ _ s
  | .truth _ => grows_plain p _ _ _
  | .list [] => (grows_mark p _ _ _).trans (grows_mark _ _ _ _)
  | .list (item :: items) => grows_items p _ (item :: items)
  | .mapping [] => (grows_mark p _ _ _).trans (grows_mark _ _ _ _)
  | .mapping (entry :: entries) => grows_entries p _ (entry :: entries)

/-- Nor when the items of a list are written. -/
theorem grows_items (p : Page) (column : Nat) :
    (items : List Outline) → p.Grows (p.items column items)
  | [] => .refl p
  | item :: items =>
      (((grows_indent p column).trans (grows_mark _ _ _ _)).trans (grows_outline _ _ _ item)).trans
        (grows_items _ column items)

/-- Nor when the entries of a mapping are written. -/
theorem grows_entries (p : Page) (column : Nat) :
    (entries : List (WideText × Outline)) → p.Grows (p.entries column entries)
  | [] => .refl p
  | (key, value) :: entries =>
      (((grows_indent p column).trans (grows_key _ column key)).trans
        (grows_outline _ _ _ value)).trans (grows_entries _ column entries)

end

end Page

end ZoneFirewall.Yaml
