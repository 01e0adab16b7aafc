import Mathlib.Data.List.Pairwise
import ZoneFirewall.Proofs.LineFaults

/-!
# What the fields of directives look like

A directive that has been read off a line has only digits where it has numerals, and something where
it names a zone. So its numerals are numbers unless they have too many digits.

* `Scan.Yields`: what all results of a reader have in common, one lemma for each way to make
  readers.
* `IsNumeral`, `numeralValue`: texts of digits, and their numbers. `readNumber_of_isNumeral`:
  **a text of digits is a number exactly if it is not too long.**
* `Part`, `Directive.part`, `Family.part`: what directives and families are about.
* `Directive.WellWritten`, `yields_of_mem_families`: what all forms have in common.
* `Family.Heads`, `exists_family_of_classify`: **every directive of a line is well written and of
  the part of the line's family.**
* `classify_eq_error_iff`: **a line is malformed exactly if it is of a family and has none of its
  forms.**
-/

namespace ZoneFirewall

open Text

/-! ## Results of readers -/

namespace Text.Scan

variable {α β : Type} {r r' : Scan α} {P : α → Prop} {Q : β → Prop}

/-- All results of a reader satisfy `P`. -/
def Yields (r : Scan α) (P : α → Prop) : Prop :=
  ∀ cs a rest, r.run cs = some (a, rest) → P a

/-- Of every result nothing is said. -/
theorem Yields.any : Yields r fun _ => True := fun _ _ _ _ => trivial

/-- A result that is given is as it is. -/
theorem Yields.pure {a : α} (h : P a) : Yields (pure a) P := by
  intro cs b rest hb
  cases hb
  exact h

/-- What is read last has what can be said of it after what was read first. -/
theorem Yields.bind {f : α → Scan β} (hr : Yields r P) (hf : ∀ a, P a → Yields (f a) Q) :
    Yields (r >>= f) Q := by
  intro cs b rest h
  obtain ⟨⟨a, cs'⟩, ha, hb⟩ := Option.bind_eq_some_iff.1 h
  exact hf a (hr cs a cs' ha) cs' b rest hb

/-- A reader after one whose result does not matter. -/
theorem Yields.after {f : α → Scan β} (hf : ∀ a, Yields (f a) Q) : Yields (r >>= f) Q :=
  Yields.any.bind fun a _ => hf a

/-- Either of two readers yields what both of them yield. -/
theorem Yields.orElse (hr : Yields r P) (hr' : Yields r' P) : Yields (r <|> r') P := by
  intro cs a rest h
  change (r.run cs).orElse (fun _ => r'.run cs) = some (a, rest) at h
  rcases hfirst : r.run cs with _ | first
  · rw [hfirst] at h
    exact hr' cs a rest h
  · rw [hfirst] at h
    cases h
    exact hr cs a rest hfirst

/-- A part that may be left out is as it should be if it is there. -/
theorem Yields.maybe (hr : Yields r P) : Yields (maybe r) fun o => ∀ a ∈ o, P a := by
  refine .orElse ?_ (.pure (by simp))
  refine Yields.bind hr fun a ha => .pure ?_
  intro b hb
  cases hb
  exact ha

/-- What is taken with a condition is not empty, and meets it. -/
theorem yields_spanSome (p : Char → Bool) :
    Yields (spanSome p) fun text => text ≠ "" ∧ ∀ c ∈ text.toList, p c := by
  intro cs text rest h
  simp only [spanSome, StateT.run] at h
  split at h
  · cases h
  · rename_i hne
    cases h
    refine ⟨fun hempty => hne ?_, fun c hc => ?_⟩
    · rw [← String.toList_ofList (l := cs.takeWhile p), hempty]
      rfl
    · rw [String.toList_ofList] at hc
      exact List.all_eq_true.1 List.all_takeWhile c hc

/-- A name in quotes is not empty. -/
theorem yields_quoted : Yields quoted (· ≠ "") :=
  .after fun _ => (yields_spanSome _).bind fun _ ht => .after fun _ => .pure ht.1

/-! ## Beginnings of lines -/

/-- A reader succeeds only on lines that begin with a text. -/
def Begins (r : Scan α) (front : String) : Prop :=
  ∀ cs a rest, r.run cs = some (a, rest) → front.toList <+: cs

/-- A line with a fixed text begins with it. -/
theorem begins_expect (text : String) : Begins (expect text) text := by
  intro cs a rest h
  obtain ⟨rest', hrest, -⟩ := Option.map_eq_some_iff.1 h
  exact ⟨rest', List.isPrefixOf?_eq_some_iff_append_eq.1 hrest⟩

/-- A line begins as its first part does. -/
theorem Begins.bind {f : α → Scan β} {front : String} (h : Begins r front) :
    Begins (r >>= f) front := by
  intro cs b rest hrun
  obtain ⟨⟨a, cs'⟩, ha, -⟩ := Option.bind_eq_some_iff.1 hrun
  exact h cs a cs' ha

end Text.Scan

/-! ## Numerals -/

/-- A text of decimal digits. -/
def IsNumeral (text : String) : Prop := text ≠ "" ∧ ∀ c ∈ text.toList, isDigit c

/-- The number that the digits of a text stand for. -/
def numeralValue (text : String) : Nat := ofDigits (text.toList.filterMap digitValue?)

/-- Digits are a numeral. -/
theorem yields_digits : Scan.Yields Scan.digits IsNumeral := Scan.yields_spanSome isDigit

/-- The blanks lie outside the scripts' digits. -/
theorem isBlank_eq_false_of_isDigit {c : Char} (h : isDigit c) : isBlank c = false := by
  have hzeros : ∀ z ∈ digitZeros, (0x20 < z ∧ z + 10 ≤ 0x85) ∨ (0xa0 < z ∧ z + 10 ≤ 0x1680) ∨
      (0x1680 < z ∧ z + 10 ≤ 0x2000) ∨ 0x3000 < z := by decide
  obtain ⟨v, hv⟩ := Option.isSome_iff_exists.1 h
  obtain ⟨z, hz, -⟩ := Option.map_eq_some_iff.1 hv
  have hin := List.find?_some hz
  simp only [Bool.and_eq_true, decide_eq_true_eq] at hin
  have hout := hzeros z (List.mem_of_find?_eq_some hz)
  simp only [isBlank, Bool.or_eq_false_iff, Bool.and_eq_false_iff, decide_eq_false_iff_not,
    beq_eq_false_iff_ne]
  omega

/-- No character is a surrogate. -/
theorem isSurrogate_toNat (c : Char) : isSurrogate c.toNat = false := by
  have hvalid : c.toNat < 0xd800 ∨ 0xdfff < c.toNat := by
    rcases c.valid with h | h
    · exact .inl h
    · exact .inr h.1
  simp only [isSurrogate, Bool.and_eq_false_iff, decide_eq_false_iff_not]
  omega

/-- A character is that of its code point. -/
theorem charOfPoint_toNat (c : Char) : charOfPoint c.toNat = c := by
  rw [charOfPoint, isSurrogate_toNat, if_neg (by simp), Char.ofNat_toNat]

/-- The characters of a text as a wide one are its own. -/
theorem chars_ofString (text : String) : (WideText.ofString text).chars = text.toList := by
  simp [WideText.chars, WideText.ofString, WideText.ofChars, Function.comp_def, charOfPoint_toNat]

/-- Digits are read to their end. -/
theorem digitTail_of_digits {cs : List Char} (h : ∀ c ∈ cs, isDigit c) :
    digitTail cs = (cs.filterMap digitValue?, []) := by
  have hmark : isDigit '_' = false := by decide
  induction cs with
  | nil => rfl
  | cons c cs ih =>
      obtain ⟨v, hv⟩ := Option.isSome_iff_exists.1 (h c List.mem_cons_self)
      have hc : c ≠ '_' := by
        rintro rfl
        rw [isDigit, hv] at hmark
        cases hmark
      have htail : digitTail (c :: cs) = (v :: (digitTail cs).1, (digitTail cs).2) := by
        rw [digitTail.eq_def]
        split
        · rename_i heq
          cases heq
          exact absurd rfl hc
        · rename_i heq
          cases heq
          simp only [hv]
        · rename_i heq
          cases heq
      rw [htail, ih fun d hd => h d (List.mem_cons_of_mem _ hd), List.filterMap_cons_some hv]

/-- A text of digits is one run of their values. -/
theorem digitRun_of_digits {c : Char} {cs : List Char} (h : ∀ d ∈ c :: cs, isDigit d) :
    digitRun (c :: cs) = some ((c :: cs).filterMap digitValue?, []) := by
  obtain ⟨v, hv⟩ := Option.isSome_iff_exists.1 (h c List.mem_cons_self)
  have htail : digitTail cs = (cs.filterMap digitValue?, []) :=
    digitTail_of_digits fun d hd => h d (List.mem_cons_of_mem _ hd)
  rw [digitRun, hv, htail, List.filterMap_cons_some hv]
  rfl

/-- No sign is in front of a digit. -/
theorem splitSign_of_isDigit {c : Char} (h : isDigit c) (cs : List Char) :
    splitSign (c :: cs) = (false, c :: cs) := by
  rw [splitSign.eq_def]
  split
  · rename_i heq
    cases heq
    cases h
  · rename_i heq
    cases heq
    cases h
  · rfl

/-- **A text of digits is a number exactly if it is not too long.** -/
theorem readNumber_of_isNumeral {text : String} (h : IsNumeral text) :
    readNumber text
      = if text.length ≤ digitLimit then .ok (numeralValue text)
        else .error (.numeral (.tooManyDigits text.length)) := by
  obtain ⟨hne, hdigits⟩ := h
  obtain ⟨c, cs, hcs⟩ : ∃ c cs, text.toList = c :: cs := by
    refine List.exists_cons_of_ne_nil fun hnil => hne ?_
    rw [← String.ofList_toList (s := text), hnil]
  have hlength : (text.toList.filterMap digitValue?).length = text.length := by
    rw [List.filterMap_length_eq_length.2 hdigits, String.length_toList]
  rw [numeralValue, readNumber, readInteger, chars_ofString]
  rw [hcs] at hdigits hlength ⊢
  have hc : isDigit c := hdigits c List.mem_cons_self
  have hfront : (c :: cs).dropWhile isNumeralBlank = c :: cs := by
    rw [List.dropWhile_cons_of_neg]
    rw [isNumeralBlank, isBlank_eq_false_of_isDigit hc]
    exact Bool.false_ne_true
  rw [hfront, splitSign_of_isDigit hc]
  simp only [digitRun_of_digits hdigits, hlength, List.head?_nil, List.all_nil, reduceCtorEq,
    if_false, if_true, Bool.false_eq_true]
  by_cases hfits : text.length ≤ digitLimit
  · rw [if_neg (by omega), if_pos hfits]
    rfl
  · rw [if_pos (by omega), if_neg hfits]
    rfl

/-- A numeral that is read has the value of its digits. -/
theorem eq_numeralValue {n : String} {v : Int} (hn : IsNumeral n) (h : readNumber n = .ok v) :
    v = numeralValue n := by
  rw [readNumber_of_isNumeral hn] at h
  split at h
  · cases h
    rfl
  · cases h

/-- So has one that may be left out. -/
theorem eq_map_numeralValue {text : Option String} {v : Option Int}
    (htext : ∀ n ∈ text, IsNumeral n) (h : text.mapM readNumber = .ok v) :
    v = text.map fun n => (numeralValue n : Int) := by
  rcases text with _ | n
  · cases h
    rfl
  · rw [Option.mapM_some] at h
    obtain ⟨w, hw, rfl⟩ := map_eq_ok.1 h
    rw [eq_numeralValue (htext n rfl) hw]
    rfl

/-- A numeral cannot be read if it is too long. -/
theorem tooManyDigits_of_readNumber {n : String} {fault : ReadFault} (hn : IsNumeral n)
    (h : readNumber n = .error fault) :
    digitLimit < n.length ∧ fault = .numeral (.tooManyDigits n.length) := by
  rw [readNumber_of_isNumeral hn] at h
  split at h
  · cases h
  · rename_i hlong
    cases h
    exact ⟨by omega, rfl⟩

/-! ## Directives -/

/-- The parts of a configuration that directives are about. -/
inductive Part where
  /-- The services and their groups. -/
  | services
  /-- The addresses and their groups. -/
  | addresses
  /-- The policies. -/
  | policies
  deriving DecidableEq, Repr

/-- The part that a directive is about. -/
def Directive.part : Directive → Part
  | .service _ _ | .serviceContinue _ _ | .serviceTimeout _ _ => .services
  | .serviceGroupAdd _ _ | .serviceGroupCreate _ _ => .services
  | .address _ _ _ _ _ | .addressGroupAdd _ _ _ | .addressGroupCreate _ _ _ => .addresses
  | .policyCreate _ | .policyBlock _ | .policyFlag _ _ _ => .policies

/-- The part that the lines of a family are about. -/
def Family.part (f : Family) : Part :=
  if f.head = "set service" ∨ f.head = "set group service" then .services
  else if f.head = "set address" ∨ f.head = "set group address" then .addresses
  else .policies

/-- A directive has digits where it has numerals, and a policy has zones. -/
def Directive.WellWritten (d : Directive) : Prop :=
  (∀ n ∈ d.numerals, IsNumeral n) ∧
    match d with
    | .policyCreate h => h.fromZone ≠ "" ∧ h.toZone ≠ ""
    | _ => True

section forms

open Text.Scan

/-- The ends of a range are numerals. -/
theorem yields_scanRange : Yields scanRange fun r => IsNumeral r.1 ∧ IsNumeral r.2 :=
  yields_digits.bind fun _ hfirst => .after fun _ => yields_digits.bind fun _ hlast =>
    .pure ⟨hfirst, hlast⟩

/-- So are those of the ports of a clause. -/
theorem yields_scanPorts : Yields scanPorts fun r =>
    ∀ n ∈ (ServiceClause.ports "" (some r)).numerals, IsNumeral n := by
  refine .after fun _ => yields_scanRange.bind fun source hsource => .after fun _ =>
    yields_scanRange.bind fun destination hdestination => .pure ?_
  simp [ServiceClause.numerals, hsource, hdestination]

/-- All numbers of a clause with ports are numerals. -/
theorem yields_scanPortClause : Yields scanPortClause fun c => ∀ n ∈ c.numerals, IsNumeral n := by
  refine .after fun protocol => yields_scanPorts.maybe.bind fun ranges hranges =>
    .after fun _ => .after fun _ => .pure ?_
  rcases ranges with _ | r
  · simp [ServiceClause.numerals]
  · exact hranges r rfl

/-- So are the type and the code of the other clause. -/
theorem yields_scanIcmpClause : Yields scanIcmpClause fun c => ∀ n ∈ c.numerals, IsNumeral n := by
  refine .after fun _ => yields_digits.bind fun type htype => .after fun _ =>
    yields_digits.bind fun code hcode => .after fun _ => .after fun _ => .pure ?_
  simp [ServiceClause.numerals, htype, hcode]

/-- The number of a policy is a numeral. -/
theorem yields_scanPolicyId : Yields scanPolicyId IsNumeral := .after fun _ => yields_digits

/-- So is the port of an address replacement. -/
theorem yields_scanPolicyEnd : Yields scanPolicyEnd fun tail => ∀ n ∈ tail.1, IsNumeral n :=
  (Yields.after fun _ => yields_digits).maybe.bind fun _ hport => .after fun _ =>
    .after fun _ => .after fun _ => .after fun _ => .pure hport

/-- What is read behind the longest run is as it is behind any. -/
theorem yields_scanLongest {α : Type} {r : Scan α} {P : α → Prop} (h : Yields r P) (n : Nat) :
    Yields (scanLongest r n) fun x => P x.2 := by
  intro cs a rest hrun
  induction n with
  | zero => cases hrun
  | succ n ih =>
      simp only [scanLongest, StateT.run] at hrun
      split at hrun
      · rename_i value rest' hvalue
        cases hrun
        exact h _ _ _ hvalue
      · exact ih hrun

/-- The port is a numeral with or without an address in front of it. -/
theorem yields_scanNatAddress : Yields scanNatAddress fun x => ∀ n ∈ x.2.1, IsNumeral n := by
  intro cs a rest hrun
  simp only [scanNatAddress, StateT.run] at hrun
  split at hrun
  · obtain ⟨⟨⟨address, tail⟩, left⟩, hlongest, heq⟩ := Option.map_eq_some_iff.1 hrun
    cases heq
    exact yields_scanLongest yields_scanPolicyEnd _ _ _ _ hlongest
  · obtain ⟨⟨tail, left⟩, hend, heq⟩ := Option.map_eq_some_iff.1 hrun
    cases heq
    exact yields_scanPolicyEnd _ _ _ hend

/-- A creation is well written, and it is about policies. -/
theorem yields_scanPolicyCreate :
    Yields scanPolicyCreate fun d => d.WellWritten ∧ d.part = .policies := by
  refine yields_scanPolicyId.bind fun id hid => .after fun _ => .after fun name => .after fun _ =>
    yields_quoted.bind fun fromZone hfrom => .after fun _ => yields_quoted.bind fun toZone hto =>
    .after fun _ => .after fun source => .after fun _ => .after fun destination => .after fun _ =>
    .after fun service => .after fun _ => .after fun nat => yields_scanNatAddress.bind ?_
  rintro ⟨natAddress, natPort, action, log⟩ hport
  refine .pure ⟨⟨?_, hfrom, hto⟩, rfl⟩
  intro n hn
  rcases List.mem_cons.1 hn with rfl | hn
  · exact hid
  · exact hport n (Option.mem_toList.1 hn)

/-- **Every form yields well-written directives** of its family's part. -/
theorem yields_of_mem_families {f : Family} (hf : f ∈ families) {form : Scan Directive}
    (hform : form ∈ f.forms) : Yields form fun d => d.WellWritten ∧ d.part = f.part := by
  have hplain : ∀ {d : Directive}, d.numerals = [] → (∀ h, d ≠ .policyCreate h) →
      d.WellWritten := by
    intro d hnone hother
    refine ⟨by simp [hnone], ?_⟩
    cases d with
    | policyCreate h => exact absurd rfl (hother h)
    | _ => trivial
  simp only [families, List.mem_cons, List.not_mem_nil, or_false] at hf
  rcases hf with rfl | rfl | rfl | rfl | rfl
  · simp only [List.mem_cons, List.not_mem_nil, or_false] at hform
    rcases hform with rfl | rfl | rfl | rfl | rfl
    · exact .after fun _ => yields_scanPortClause.bind fun _ hc => .pure ⟨⟨hc, trivial⟩, rfl⟩
    · exact .after fun _ => yields_scanIcmpClause.bind fun _ hc => .pure ⟨⟨hc, trivial⟩, rfl⟩
    · exact .after fun _ => yields_scanPortClause.bind fun _ hc => .pure ⟨⟨hc, trivial⟩, rfl⟩
    · exact .after fun _ => yields_scanIcmpClause.bind fun _ hc => .pure ⟨⟨hc, trivial⟩, rfl⟩
    · exact .after fun _ => .after fun _ => .after fun _ => .pure ⟨hplain rfl nofun, rfl⟩
  · rw [List.mem_singleton.1 hform]
    exact .after fun _ => .after fun _ => .after fun _ => .after fun _ => .after fun _ =>
      .after fun _ => .after fun _ => .after fun _ => .after fun _ =>
      .pure ⟨hplain rfl nofun, rfl⟩
  · simp only [List.mem_cons, List.not_mem_nil, or_false] at hform
    rcases hform with rfl | rfl
    · exact .after fun _ => .after fun _ => .after fun _ => .after fun _ => .after fun _ =>
        .after fun _ => .after fun _ => .pure ⟨hplain rfl nofun, rfl⟩
    · exact .after fun _ => .after fun _ => .after fun _ => .after fun _ => .after fun _ =>
        .after fun _ => .pure ⟨hplain rfl nofun, rfl⟩
  · simp only [List.mem_cons, List.not_mem_nil, or_false] at hform
    rcases hform with rfl | rfl
    · exact .after fun _ => .after fun _ => .after fun _ => .after fun _ => .after fun _ =>
        .pure ⟨hplain rfl nofun, rfl⟩
    · exact .after fun _ => .after fun _ => .after fun _ => .after fun _ =>
        .pure ⟨hplain rfl nofun, rfl⟩
  · simp only [List.mem_cons, List.not_mem_nil, or_false] at hform
    rcases hform with rfl | rfl | rfl
    · exact yields_scanPolicyCreate
    · exact yields_scanPolicyId.bind fun id hid => .after fun _ =>
        .pure ⟨⟨List.forall_mem_singleton.2 hid, trivial⟩, rfl⟩
    · exact yields_scanPolicyId.bind fun id hid => .after fun _ => .after fun _ => .after fun _ =>
        .after fun _ => .after fun _ => .pure ⟨⟨List.forall_mem_singleton.2 hid, trivial⟩, rfl⟩

/-- **Every form begins with the words of its family and a space.** -/
theorem begins_of_mem_families {f : Family} (hf : f ∈ families) {form : Scan Directive}
    (hform : form ∈ f.forms) : Begins form (f.head ++ " ") := by
  simp only [families, List.mem_cons, List.not_mem_nil, or_false] at hf
  rcases hf with rfl | rfl | rfl | rfl | rfl
  · simp only [List.mem_cons, List.not_mem_nil, or_false] at hform
    rcases hform with rfl | rfl | rfl | rfl | rfl
    all_goals exact (begins_expect _).bind.bind
  · rw [List.mem_singleton.1 hform]
    exact (begins_expect _).bind
  · simp only [List.mem_cons, List.not_mem_nil, or_false] at hform
    rcases hform with rfl | rfl
    all_goals exact (begins_expect _).bind
  · simp only [List.mem_cons, List.not_mem_nil, or_false] at hform
    rcases hform with rfl | rfl
    all_goals exact (begins_expect _).bind
  · simp only [List.mem_cons, List.not_mem_nil, or_false] at hform
    rcases hform with rfl | rfl | rfl
    all_goals exact (begins_expect _).bind.bind

end forms

/-! ## Families -/

/-- A line is of a family if it consists of the family's words, or goes on after them with a
space. -/
def Family.Heads (f : Family) (line : String) : Prop :=
  line = f.head ∨ (f.head ++ " ").toList <+: line.toList

/-- The words of a family that a line is of are in front of the line. -/
theorem Family.Heads.isPrefix {f : Family} {line : String} (h : f.Heads line) :
    f.head.toList <+: line.toList := by
  rcases h with rfl | h
  · exact List.prefix_rfl
  · rw [String.toList_append] at h
    exact (List.prefix_append _ _).trans h

/-- A line that has the words of a family in front is of the family if a space follows, or
nothing. -/
theorem Family.heads_iff {f : Family} {line : String} {rest : List Char}
    (h : f.head.toList ++ rest = line.toList) :
    f.Heads line ↔ rest = [] ∨ rest.head? = some ' ' := by
  rw [Family.Heads, String.toList_append, ← h, List.prefix_append_right_inj, ← String.toList_inj,
    ← h, List.append_right_eq_self]
  rcases rest with _ | ⟨c, rest⟩
  · simp
  · simp [eq_comm]

/-- The words of neither family are in front of those of the other. -/
def Family.Apart (f g : Family) : Prop :=
  ¬ f.head.toList <+: g.head.toList ∧ ¬ g.head.toList <+: f.head.toList

instance : Std.Symm Family.Apart := ⟨fun _ _ h => ⟨h.2, h.1⟩⟩

instance : DecidableRel Family.Apart := fun _ _ => inferInstanceAs (Decidable (_ ∧ _))

/-- The families are apart from each other. -/
theorem pairwise_families : families.Pairwise Family.Apart := by decide

/-- No line is of two families that are apart. -/
theorem Family.Apart.not_heads {f g : Family} {line : String} (h : f.Apart g)
    (hf : f.head.toList <+: line.toList) : ¬ g.Heads line := by
  intro hg
  rcases List.prefix_or_prefix_of_prefix hf hg.isPrefix with hfg | hgf
  · exact h.1 hfg
  · exact h.2 hgf

/-- A directive that is found has been read by one of the forms. -/
theorem exists_read_of_classifyIn {line : List Char} {fs : List Family} {d : Directive}
    (h : classifyIn line fs = .ok (some d)) : ∃ f ∈ fs, f.read? line = some d := by
  induction fs with
  | nil => cases h
  | cons f fs ih =>
      rw [classifyIn] at h
      have hlater : classifyIn line fs = .ok (some d) → ∃ g ∈ f :: fs, g.read? line = some d := by
        intro h
        obtain ⟨g, hg, hread⟩ := ih h
        exact ⟨g, List.mem_cons_of_mem _ hg, hread⟩
      split at h
      · exact hlater h
      · split at h
        · rename_i hread
          cases h
          exact ⟨f, List.mem_cons_self, hread⟩
        · split at h
          · cases h
          · exact hlater h

/-- **Every directive of a line is well written**, and of the part of the line's family. -/
theorem exists_family_of_classify {line : String} {d : Directive}
    (h : Directive.classify line = .ok (some d)) :
    d.WellWritten ∧ ∃ f ∈ families, f.Heads line ∧ d.part = f.part := by
  obtain ⟨f, hf, hread⟩ := exists_read_of_classifyIn h
  obtain ⟨form, hform, hrun⟩ := List.exists_of_findSome?_eq_some hread
  obtain ⟨⟨d', rest⟩, hresult, rfl⟩ := Option.map_eq_some_iff.1 hrun
  obtain ⟨hd, hpart⟩ := yields_of_mem_families hf hform _ _ _ hresult
  exact ⟨hd, f, hf, .inr (begins_of_mem_families hf hform _ _ _ hresult), hpart⟩

/-- A line is of at most one family. -/
theorem Family.eq_of_heads {f g : Family} (hf : f ∈ families) (hg : g ∈ families) {line : String}
    (hfline : f.Heads line) (hgline : g.Heads line) : f = g := by
  by_contra hne
  exact (pairwise_families.forall hf hg hne).not_heads hfline.isPrefix hgline

/-- A line is refused if it is of one of some families whose words are not in front of each other,
and has none of that family's forms. -/
theorem classifyIn_eq_error_iff {line : String} {fs : List Family} {fault : DirectiveFault}
    (hfs : fs.Pairwise Family.Apart) :
    classifyIn line.toList fs = .error fault ↔ ∃ f ∈ fs, f.Heads line ∧
      f.read? line.toList = none ∧ fault = .malformed f.head line := by
  induction fs with
  | nil => simp [classifyIn]
  | cons f fs ih =>
      obtain ⟨hf, hfs⟩ := List.pairwise_cons.1 hfs
      simp only [List.mem_cons, exists_eq_or_imp, ← ih hfs]
      rw [classifyIn]
      split
      · rename_i hnone
        have hnot : ¬ f.Heads line := by
          intro hheads
          obtain ⟨rest, hrest⟩ := hheads.isPrefix
          rw [List.isPrefixOf?_eq_some_iff_append_eq.2 hrest] at hnone
          cases hnone
        exact ⟨.inr, fun h => h.resolve_left fun h => hnot h.1⟩
      · rename_i rest hrest
        have happend := List.isPrefixOf?_eq_some_iff_append_eq.1 hrest
        have hothers : classifyIn line.toList fs ≠ .error fault := by
          rw [Ne, ih hfs]
          rintro ⟨g, hg, hheads, -⟩
          exact (hf g hg).not_heads ⟨rest, happend⟩ hheads
        rw [Family.heads_iff happend]
        split
        · rename_i d hread
          simp [hread, hothers]
        · rename_i hread
          split
          · rename_i hheads
            simp [hheads, hread, hothers, eq_comm]
          · rename_i hheads
            simp [hheads]

/-- **A line is malformed exactly if it is of a family and has none of the family's forms.** -/
theorem classify_eq_error_iff {line : String} {fault : DirectiveFault} :
    Directive.classify line = .error fault ↔ ∃ f ∈ families, f.Heads line ∧
      f.read? line.toList = none ∧ fault = .malformed f.head line :=
  classifyIn_eq_error_iff pairwise_families

end ZoneFirewall
