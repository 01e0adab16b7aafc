import ZoneFirewall.Proofs.DirectiveFields

/-!
# Readers and the texts that they take

What a reader takes off a line, what it leaves, what it does on a text that is spelled out, and
which lines it fails on, with one lemma for each way to make readers.

* `Scan.Takes`, `Scan.Exhausts`: **what is taken is a text of the result**, and at most a final line
  feed is left.
* `Scan.run_bind`, `Scan.run_expect`, `Scan.run_digits` and so on: **what is read** on a text that
  is spelled out. A numeral and a run of characters end where the next character is none of theirs
  (`Scan.Stops`); every other field has its end written out.
* `Scan.Excludes`: **no line is read by two readers.** `Scan.Avoids`: a reader fails on all lines
  that begin with a text; with `Scan.Begins` this shows that readers exclude each other where they
  part.
-/

namespace ZoneFirewall

open Text Text.Scan

/-! ## Fields -/

/-- A text that may stand in double quotes as a name. -/
def IsName (s : String) : Prop := s ≠ "" ∧ ∀ c ∈ s.toList, c ≠ '"'

/-- One space, or nothing. -/
def IsGap (s : String) : Prop := s = "" ∨ s = " "

/-- A text with double quotes around it. -/
def inQuotes (s : String) : String := "\"" ++ s ++ "\""

/-- The text for a part that may be left out. -/
def optionally {α : Type} (write : α → String) (part : Option α) : String := part.elim "" write

/-- A part that is left out has no text. -/
@[simp] theorem optionally_none {α : Type} (write : α → String) : optionally write none = "" := rfl

/-- A part that is there has its text. -/
@[simp] theorem optionally_some {α : Type} (write : α → String) (a : α) :
    optionally write (some a) = write a := rfl

/-! ## What readers take -/

namespace Text.Scan

variable {α β : Type} {r r' : Scan α} {f : α → Scan β} {P P' : α → String → Prop}
  {Q : β → String → Prop}

/-- What a reader takes off the front of a line is a text of its result. -/
def Takes (r : Scan α) (P : α → String → Prop) : Prop :=
  ∀ cs a rest, r.run cs = some (a, rest) → ∃ text, P a text ∧ cs = text.toList ++ rest

/-- A result that is given takes nothing off. -/
theorem Takes.pure {a : α} (h : P a "") : Takes (pure a) P := by
  intro cs b rest hb
  cases hb
  exact ⟨"", h, rfl⟩

/-- What readers take off one after another is their texts, one after another. -/
theorem Takes.bind (hr : Takes r P) (hf : ∀ a u, P a u → Takes (f a) fun b v => Q b (u ++ v)) :
    Takes (r >>= f) Q := by
  intro cs b rest h
  obtain ⟨⟨a, mid⟩, ha, hb⟩ := Option.bind_eq_some_iff.1 h
  obtain ⟨u, hu, rfl⟩ := hr cs a mid ha
  obtain ⟨v, hv, rfl⟩ := hf a u hu mid b rest hb
  exact ⟨u ++ v, hv, by simp⟩

/-- Less may be said of what is taken. -/
theorem Takes.mono (hr : Takes r P) (h : ∀ a u, P a u → P' a u) : Takes r P' := by
  intro cs a rest hrun
  obtain ⟨text, htext, rfl⟩ := hr cs a rest hrun
  exact ⟨text, h a text htext, rfl⟩

/-- Either of two readers takes what both of them would take. -/
theorem Takes.orElse (hr : Takes r P) (hr' : Takes r' P) : Takes (r <|> r') P := by
  intro cs a rest h
  change (r.run cs).orElse (fun _ => r'.run cs) = some (a, rest) at h
  rcases hfirst : r.run cs with _ | first
  · rw [hfirst] at h
    exact hr' cs a rest h
  · rw [hfirst] at h
    cases h
    exact hr cs a rest hfirst

/-- A part that may be left out takes its text or nothing. -/
theorem Takes.maybe (hr : Takes r P) :
    Takes (maybe r) fun o u => (∃ a, o = some a ∧ P a u) ∨ o = none ∧ u = "" := by
  refine .orElse (Takes.bind hr fun a u hu => .pure (.inl ⟨a, rfl, ?_⟩)) (.pure (.inr ⟨rfl, rfl⟩))
  rw [String.append_empty]
  exact hu

/-- A fixed text is what is taken for it. -/
theorem takes_expect (text : String) : Takes (expect text) fun _ u => u = text := by
  intro cs a rest h
  obtain ⟨rest', hrest, heq⟩ := Option.map_eq_some_iff.1 h
  cases heq
  exact ⟨text, rfl, (List.isPrefixOf?_eq_some_iff_append_eq.1 hrest).symm⟩

/-- A reader after a fixed text. -/
theorem Takes.afterText {text : String} {f : Unit → Scan β}
    (hf : Takes (f ()) fun b v => Q b (text ++ v)) : Takes (expect text >>= f) Q :=
  (takes_expect text).bind fun _ _ hu => hu ▸ hf

/-- A reader after a field with the given text. -/
theorem Takes.field {C : α → Prop} {write : α → String} (hr : Takes r fun a u => C a ∧ u = write a)
    (hf : ∀ a, C a → Takes (f a) fun b v => Q b (write a ++ v)) : Takes (r >>= f) Q :=
  hr.bind fun a _ hu => hu.2 ▸ hf a hu.1

/-- So it is for a word that has a meaning. -/
theorem takes_word (text : String) (a : α) : Takes (word text a) fun b u => b = a ∧ u = text :=
  .afterText (.pure ⟨rfl, String.append_empty⟩)

/-- A part that may be left out, if it has the given text. -/
theorem Takes.optional {C : α → Prop} {write : α → String}
    (hr : Takes r fun a u => C a ∧ u = write a) :
    Takes (Scan.maybe r) fun o u => (∀ a ∈ o, C a) ∧ u = optionally write o := by
  refine hr.maybe.mono fun o u hu => ?_
  rcases hu with ⟨a, rfl, ha, rfl⟩ | ⟨rfl, rfl⟩
  · exact ⟨by simpa using ha, rfl⟩
  · exact ⟨by simp, rfl⟩

/-- A run of characters is taken as it is; it may be empty. -/
theorem takes_span (p : Char → Bool) :
    Takes (span p) fun s u => (∀ c ∈ s.toList, p c) ∧ u = s := by
  intro cs s rest h
  cases h
  refine ⟨_, ⟨?_, rfl⟩, ?_⟩
  · rw [String.toList_ofList]
    exact List.all_eq_true.1 List.all_takeWhile
  · rw [String.toList_ofList, List.takeWhile_append_dropWhile]

/-- So is a run with at least one character. -/
theorem takes_spanSome (p : Char → Bool) :
    Takes (spanSome p) fun s u => (s ≠ "" ∧ ∀ c ∈ s.toList, p c) ∧ u = s := by
  intro cs s rest h
  have hs := yields_spanSome p cs s rest h
  simp only [spanSome, StateT.run] at h
  split at h
  · cases h
  · cases h
    refine ⟨_, ⟨hs, rfl⟩, ?_⟩
    rw [String.toList_ofList, List.takeWhile_append_dropWhile]

/-- A numeral is taken as it is. -/
theorem takes_digits : Takes digits fun n u => IsNumeral n ∧ u = n := takes_spanSome isDigit

/-- A name is taken with the quotes around it. -/
theorem takes_quoted : Takes quoted fun n u => IsName n ∧ u = inQuotes n := by
  refine .afterText ((takes_spanSome _).field fun n hn => .afterText (.pure ⟨⟨hn.1, ?_⟩, ?_⟩))
  · simpa using hn.2
  · simp [inQuotes, String.append_assoc]

/-- A space that may be left out is taken as a gap. -/
theorem takes_gap : Takes (maybe (expect " ")) fun _ u => IsGap u :=
  (takes_expect " ").maybe.mono fun _ _ hu =>
    hu.elim (fun ⟨_, _, hu⟩ => .inr hu) fun hu => .inl hu.2

/-- The end of a line takes nothing off. -/
theorem takes_ending : Takes ending fun _ u => u = "" := by
  intro cs a rest h
  simp only [ending, StateT.run] at h
  split at h
  · cases h
    exact ⟨"", rfl, rfl⟩
  · cases h

/-- What is left at the end of a line. -/
def IsEnd (rest : List Char) : Prop := rest = [] ∨ rest = ['\n']

/-- A reader leaves at most a final line feed. -/
def Exhausts (r : Scan α) : Prop := ∀ cs a rest, r.run cs = some (a, rest) → IsEnd rest

/-- A line is exhausted if it is by what is read last. -/
theorem Exhausts.after (hf : ∀ a, Exhausts (f a)) : Exhausts (r >>= f) := by
  intro cs b rest h
  obtain ⟨⟨a, mid⟩, -, hb⟩ := Option.bind_eq_some_iff.1 h
  exact hf a mid b rest hb

/-- The end of a line exhausts it. -/
theorem exhausts_ending (a : α) : Exhausts (do ending; return a) := by
  intro cs b rest h
  obtain ⟨⟨⟨⟩, mid⟩, hend, hb⟩ := Option.bind_eq_some_iff.1 h
  cases hb
  simp only [ending] at hend
  split at hend
  · cases hend
    assumption
  · cases hend

/-- What is made of the result does not matter. -/
theorem Exhausts.map {g : α → β} (hr : Exhausts r) : Exhausts (do return g (← r)) := by
  intro cs b rest h
  obtain ⟨⟨a, mid⟩, ha, hb⟩ := Option.bind_eq_some_iff.1 h
  cases hb
  exact hr cs a rest ha

/-- Either of two readers exhausts a line if both do. -/
theorem Exhausts.orElse (hr : Exhausts r) (hr' : Exhausts r') : Exhausts (r <|> r') := by
  intro cs a rest h
  change (r.run cs).orElse (fun _ => r'.run cs) = some (a, rest) at h
  rcases hfirst : r.run cs with _ | first
  · rw [hfirst] at h
    exact hr' cs a rest h
  · rw [hfirst] at h
    cases h
    exact hr cs a rest hfirst

/-! ## What is read -/

/-- The next character, if there is one, does not satisfy `p`. -/
def Stops (p : Char → Bool) (cs : List Char) : Prop := ∀ c ∈ cs.head?, p c = false

/-- Every run of characters ends where the line does. -/
@[simp] theorem stops_nil (p : Char → Bool) : Stops p [] := by simp [Stops]

/-- A run ends in front of a character that is none of its own. -/
@[simp] theorem stops_cons (p : Char → Bool) (c : Char) (cs : List Char) :
    Stops p (c :: cs) ↔ p c = false := by
  simp [Stops]

/-- What is read first is taken off before the rest is read. -/
theorem run_bind {cs rest : List Char} {a : α} (h : r.run cs = some (a, rest)) :
    (r >>= f).run cs = (f a).run rest := by
  change (r.run cs).bind _ = _
  rw [h]
  rfl

/-- If the first part cannot be read, neither can the whole. -/
theorem run_bind_of_none {cs : List Char} (h : r.run cs = none) : (r >>= f).run cs = none := by
  change (r.run cs).bind _ = _
  rw [h]
  rfl

/-- The first of two readers is taken if it reads the line. -/
theorem run_orElse_of_some {cs : List Char} {x : α × List Char} (h : r.run cs = some x) :
    (r <|> r').run cs = some x := by
  change (r.run cs).orElse _ = _
  rw [h]
  rfl

/-- Otherwise it is the second. -/
theorem run_orElse_of_none {cs : List Char} (h : r.run cs = none) :
    (r <|> r').run cs = r'.run cs := by
  change (r.run cs).orElse _ = _
  rw [h]
  rfl

/-- A part that may be left out is read if it can be. -/
theorem run_maybe_of_some {cs rest : List Char} {a : α} (h : r.run cs = some (a, rest)) :
    (maybe r).run cs = some (some a, rest) := by
  refine run_orElse_of_some ?_
  change (r.run cs).bind _ = _
  rw [h]
  rfl

/-- Otherwise it is left out. -/
theorem run_maybe_of_none {cs : List Char} (h : r.run cs = none) :
    (maybe r).run cs = some (none, cs) := by
  refine (run_orElse_of_none ?_).trans rfl
  change (r.run cs).bind _ = _
  rw [h]
  rfl

/-- A fixed text is read where it stands. -/
theorem run_expect (text : String) (rest : List Char) :
    (expect text).run (text.toList ++ rest) = some ((), rest) := by
  change (text.toList.isPrefixOf? (text.toList ++ rest)).map _ = _
  rw [List.isPrefixOf?_eq_some_iff_append_eq.2 rfl]
  rfl

/-- So is a word that has a meaning. -/
theorem run_word (text : String) (a : α) (rest : List Char) :
    (word text a).run (text.toList ++ rest) = some (a, rest) :=
  (run_bind (run_expect text rest)).trans rfl

/-- A run of characters is read up to the first one that is none of its own. -/
theorem run_span {p : Char → Bool} {s : String} {rest : List Char} (hs : ∀ c ∈ s.toList, p c)
    (hrest : Stops p rest) : (span p).run (s.toList ++ rest) = some (s, rest) := by
  have hnone : rest.takeWhile p = [] ∧ rest.dropWhile p = rest := by
    rcases rest with _ | ⟨c, rest⟩
    · exact ⟨rfl, rfl⟩
    · rw [stops_cons] at hrest
      simp [hrest]
  change some (String.ofList _, _) = _
  rw [List.takeWhile_append_of_pos hs, List.dropWhile_append_of_pos hs, hnone.1, hnone.2,
    List.append_nil, String.ofList_toList]

/-- So is a run that must not be empty. -/
theorem run_spanSome {p : Char → Bool} {s : String} {rest : List Char} (hne : s ≠ "")
    (hs : ∀ c ∈ s.toList, p c) (hrest : Stops p rest) :
    (spanSome p).run (s.toList ++ rest) = some (s, rest) := by
  have hspan : some (String.ofList ((s.toList ++ rest).takeWhile p), _) = some (s, rest) :=
    run_span hs hrest
  simp only [spanSome, StateT.run]
  split
  · rename_i hnil
    rw [hnil] at hspan
    exact absurd (congrArg Prod.fst (Option.some.inj hspan)).symm hne
  · exact hspan

/-- A run that must not be empty is not read where it would end at once. -/
theorem run_spanSome_of_stops {p : Char → Bool} {cs : List Char} (h : Stops p cs) :
    (spanSome p).run cs = none := by
  have hnone : cs.takeWhile p = [] := by
    rcases cs with _ | ⟨c, cs⟩
    · rfl
    · rw [stops_cons] at h
      simp [h]
  simp only [spanSome, StateT.run, hnone]

/-- A numeral is read if no digit follows it. -/
theorem run_digits {n : String} {rest : List Char} (hn : IsNumeral n) (hrest : Stops isDigit rest) :
    digits.run (n.toList ++ rest) = some (n, rest) :=
  run_spanSome hn.1 hn.2 hrest

/-- A name in quotes is read whatever follows it. -/
theorem run_quoted {n : String} (hn : IsName n) (rest : List Char) :
    quoted.run ((inQuotes n).toList ++ rest) = some (n, rest) := by
  have hspan : (spanSome (· ≠ '"')).run (n.toList ++ ("\"".toList ++ rest))
      = some (n, "\"".toList ++ rest) :=
    run_spanSome hn.1 (by simpa using hn.2) (by simp)
  simp only [inQuotes, String.toList_append, List.append_assoc]
  rw [quoted, run_bind (run_expect _ _), run_bind hspan, run_bind (run_expect _ _)]
  rfl

/-- A reader fails on a line that does not begin as its lines do. -/
theorem Begins.run_eq_none {front : String} {cs : List Char} (hr : Begins r front)
    (h : ¬ front.toList <+: cs) : r.run cs = none := by
  rcases hrun : r.run cs with _ | ⟨a, rest⟩
  · rfl
  · exact absurd (hr cs a rest hrun) h

/-- Two texts neither of which is in front of the other have no line in common. -/
theorem not_prefix_append {s t : String} (hst : ¬ s.toList <+: t.toList)
    (hts : ¬ t.toList <+: s.toList) (rest : List Char) : ¬ s.toList <+: t.toList ++ rest := by
  intro h
  rcases List.prefix_or_prefix_of_prefix h (List.prefix_append _ _) with h | h
  · exact hst h
  · exact hts h

/-! ## Readers that exclude each other -/

variable {g : α → Scan β} {front : String}

/-- No line is read by both readers. -/
def Excludes (r r' : Scan α) : Prop := ∀ cs, r.run cs = none ∨ r'.run cs = none

/-- To exclude each other goes both ways. -/
theorem Excludes.symm (h : Excludes r r') : Excludes r' r := fun cs => (h cs).symm

instance : Std.Symm (Excludes (α := α)) := ⟨fun _ _ => Excludes.symm⟩

/-- A reader fails on all lines that begin with a text. -/
def Avoids (r : Scan α) (front : String) : Prop := ∀ rest, r.run (front.toList ++ rest) = none

/-- A reader avoids a text if its first part does. -/
theorem Avoids.bind (h : Avoids r front) : Avoids (r >>= f) front := fun rest =>
  run_bind_of_none (h rest)

/-- A fixed text avoids another one if neither begins the other. -/
theorem avoids_expect {text : String} (htext : ¬ text.toList <+: front.toList)
    (hfront : ¬ front.toList <+: text.toList) : Avoids (expect text) front := fun rest =>
  (begins_expect text).run_eq_none (not_prefix_append htext hfront rest)

/-- So does a word that has a meaning. -/
theorem avoids_word {text : String} {a : α} (htext : ¬ text.toList <+: front.toList)
    (hfront : ¬ front.toList <+: text.toList) : Avoids (word text a) front :=
  (avoids_expect htext hfront).bind

/-- Either of two readers avoids what both avoid. -/
theorem Avoids.orElse (hr : Avoids r front) (hr' : Avoids r' front) : Avoids (r <|> r') front :=
  fun rest => (run_orElse_of_none (hr rest)).trans (hr' rest)

/-- A run that must not be empty avoids a text that begins with a character of another kind. -/
theorem avoids_spanSome {p : Char → Bool} (hne : front ≠ "") (h : Stops p front.toList) :
    Avoids (spanSome p) front := by
  intro rest
  obtain ⟨c, cs, hcs⟩ :=
    List.exists_cons_of_ne_nil fun hnil => hne (String.toList_eq_nil_iff.1 hnil)
  rw [hcs] at h ⊢
  exact run_spanSome_of_stops ((stops_cons p c _).2 ((stops_cons p c cs).1 h))

/-- What follows a text avoids the rest of a line that begins with the text. -/
theorem Avoids.afterText {text : String} {f : Unit → Scan β} (h : Avoids (f ()) front) :
    Avoids (expect text >>= f) (text ++ front) := by
  intro rest
  rw [String.toList_append, List.append_assoc, run_bind (run_expect _ _)]
  exact h rest

/-- A part that is not there leaves the line as it was. -/
theorem Avoids.maybe {f : Option α → Scan β} (hr : Avoids r front) (hf : Avoids (f none) front) :
    Avoids (maybe r >>= f) front := fun rest =>
  (run_bind (run_maybe_of_none (hr rest))).trans (hf rest)

/-- The end of a line avoids every text but a line feed. -/
theorem avoids_ending (hempty : front ≠ "") (hfeed : ¬ front.toList <+: ['\n']) :
    Avoids ending front := by
  intro rest
  refine if_neg ?_
  rintro (hnil | hend)
  · exact hempty (String.toList_eq_nil_iff.1 (List.append_eq_nil_iff.1 hnil).1)
  · exact hfeed ⟨rest, hend⟩

/-- Readers exclude each other if one avoids what the lines of the other begin with. -/
theorem Excludes.of_begins (hr : Begins r front) (hr' : Avoids r' front) : Excludes r r' := by
  intro cs
  by_cases h : front.toList <+: cs
  · obtain ⟨rest, rfl⟩ := h
    exact .inr (hr' rest)
  · exact .inl (hr.run_eq_none h)

/-- Readers that take the same to begin with exclude each other if they do so after it. -/
theorem Excludes.bind (h : ∀ a, Excludes (f a) (g a)) : Excludes (r >>= f) (r >>= g) := by
  intro cs
  rcases hr : r.run cs with _ | ⟨a, rest⟩
  · exact .inl (run_bind_of_none hr)
  · rw [run_bind hr, run_bind hr]
    exact h a rest

/-- A reader that begins with a choice excludes what both choices exclude. -/
theorem Excludes.orElse_bind {s : Scan β} (hr : Excludes (r >>= f) s)
    (hr' : Excludes (r' >>= f) s) : Excludes ((r <|> r') >>= f) s := by
  have hbind (t : Scan α) (cs : List Char) : (t >>= f).run cs
      = (t.run cs).bind fun x => (f x.1).run x.2 := rfl
  intro cs
  rcases hrun : r.run cs with _ | x
  · rw [hbind, run_orElse_of_none hrun, ← hbind]
    exact hr' cs
  · rw [hbind, run_orElse_of_some hrun, ← hrun, ← hbind]
    exact hr cs

end Text.Scan

end ZoneFirewall
