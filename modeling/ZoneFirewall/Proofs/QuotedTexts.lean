import ZoneFirewall.Proofs.Instructions

/-!
# The characters of what lines say

A directive is read off one line, and its names off what stands between double quotes there. So no
text that it holds goes over the end of a line, and no name has a double quote in it. A protocol is
a word or a number, without blanks as well.

* `Text.AllChars`: that all characters of a text are of a kind; it is kept by joining texts.
* `isInLine`, `isQuotable`, `isTokenChar`: the kinds, each within the one before it.
* `Scan.OnLine`: what all results of a reader on a line have in common, one lemma for each way to
  make readers.
* `Directive.IsTidy`, `onLine_of_mem_families`: **every form yields tidy directives.**
* `isTidy_of_mem_instructionsOf`: so everything that the lines of a text tell is tidy.
-/

namespace ZoneFirewall

open Text

namespace Text

variable {p q : Char → Bool} {s t mark : String} {texts : List String}

/-! ## Kinds of characters -/

/-- All characters of a text are of a kind. -/
def AllChars (p : Char → Bool) (s : String) : Prop := ∀ ch ∈ s.toList, p ch

instance : Decidable (AllChars p s) := List.decidableBAll (fun ch => p ch) s.toList

/-- The characters of a text and of another behind it are those of both. -/
@[simp] theorem allChars_append : AllChars p (s ++ t) ↔ AllChars p s ∧ AllChars p t := by
  simp [AllChars, or_imp, forall_and]

/-- The characters of a text are those it is made of. -/
@[simp] theorem allChars_ofList {cs : List Char} :
    AllChars p (String.ofList cs) ↔ ∀ ch ∈ cs, p ch := by
  rw [AllChars, String.toList_ofList]

/-- What is true of more characters is true of these. -/
theorem AllChars.mono (h : AllChars p s) (hpq : ∀ ch, p ch → q ch) : AllChars q s :=
  fun ch hch => hpq ch (h ch hch)

/-- Texts of a kind make one text of the kind, if what is put between them is of it too. -/
theorem allChars_intercalate (hmark : AllChars p mark) (h : ∀ s ∈ texts, AllChars p s) :
    AllChars p (mark.intercalate texts) := by
  induction texts with
  | nil => exact fun ch hch => by simp at hch
  | cons s texts ih =>
      have hs := h s List.mem_cons_self
      have hrest := ih fun t ht => h t (List.mem_cons_of_mem _ ht)
      rcases texts with _ | ⟨t, texts⟩
      · simpa using hs
      · rw [String.intercalate_cons_cons, allChars_append, allChars_append]
        exact ⟨⟨hs, hmark⟩, hrest⟩

/-- No line ends with the character. -/
def isInLine (ch : Char) : Bool := !isLineEnd ch

/-- The character may stand between double quotes on a line. -/
def isQuotable (ch : Char) : Bool := isInLine ch && ch != '"'

/-- The character is neither a blank nor a double quote. -/
def isTokenChar (ch : Char) : Bool := !isBlank ch && ch != '"'

/-- What may stand in quotes may stand on a line. -/
theorem isInLine_of_isQuotable {ch : Char} (h : isQuotable ch) : isInLine ch := by
  rw [isQuotable, Bool.and_eq_true] at h
  exact h.1

/-- What ends a line is blank. -/
theorem isQuotable_of_isTokenChar {ch : Char} (h : isTokenChar ch) : isQuotable ch := by
  have hblank : isLineEnd ch → isBlank ch := by
    simp only [isLineEnd, isBlank, Bool.or_eq_true, Bool.and_eq_true, decide_eq_true_eq,
      beq_iff_eq]
    omega
  simp only [isTokenChar, isQuotable, isInLine, Bool.and_eq_true, Bool.not_eq_true'] at h ⊢
  refine ⟨?_, h.2⟩
  rw [Bool.eq_false_iff]
  intro hend
  rw [hblank hend] at h
  cases h.1

/-- A token may stand in quotes. -/
theorem AllChars.quotable (h : AllChars isTokenChar s) : AllChars isQuotable s :=
  h.mono fun _ => isQuotable_of_isTokenChar

/-- A text that may stand in quotes may stand on a line. -/
theorem AllChars.inLine (h : AllChars isQuotable s) : AllChars isInLine s :=
  h.mono fun _ => isInLine_of_isQuotable

/-- A digit may stand in a token. -/
theorem isTokenChar_of_isDigit {ch : Char} (h : isDigit ch) : isTokenChar ch := by
  have hquote : ch ≠ '"' := by
    rintro rfl
    cases h
  simp [isTokenChar, isBlank_eq_false_of_isDigit h, hquote]

/-- Trimming a line leaves characters of the line. -/
theorem allChars_trim (h : AllChars p s) : AllChars p (trim s) := by
  rw [trim, allChars_ofList]
  intro ch hch
  rw [trimChars, dropBlanksEnd, List.mem_reverse] at hch
  have hch := (List.dropWhile_sublist _).subset hch
  rw [List.mem_reverse] at hch
  exact h ch ((List.dropWhile_sublist _).subset hch)

/-- The lines of a text are lines. -/
theorem allChars_of_mem_splitLines {line : String} (h : line ∈ splitLines s) :
    AllChars isInLine line := by
  obtain ⟨cs, hcs, rfl⟩ := List.mem_map.1 h
  rw [allChars_ofList]
  intro ch hch
  rw [isInLine, not_isLineEnd_of_mem_splitLinesFrom s.toList [] (by simp) cs hcs ch hch]
  rfl

/-! ## Readers on a line -/

namespace Scan

variable {α β : Type} {r r' : Scan α} {P P' : α → Prop} {Q : β → Prop}

/-- On a line all results of a reader satisfy `P`, and what is left is of the line. -/
def OnLine (r : Scan α) (P : α → Prop) : Prop :=
  ∀ cs a rest, (∀ ch ∈ cs, isInLine ch) → r.run cs = some (a, rest) →
    P a ∧ ∀ ch ∈ rest, isInLine ch

/-- A result that is given is as it is. -/
theorem OnLine.pure {a : α} (h : P a) : OnLine (pure a) P := by
  intro cs b rest hcs hb
  cases hb
  exact ⟨h, hcs⟩

/-- Readers may follow one another on a line. -/
theorem OnLine.bind {f : α → Scan β} (hr : OnLine r P) (hf : ∀ a, P a → OnLine (f a) Q) :
    OnLine (r >>= f) Q := by
  intro cs b rest hcs h
  obtain ⟨⟨a, cs'⟩, ha, hb⟩ := Option.bind_eq_some_iff.1 h
  obtain ⟨hP, hcs'⟩ := hr cs a cs' hcs ha
  exact hf a hP cs' b rest hcs' hb

/-- Less may be said of what is read. -/
theorem OnLine.mono (hr : OnLine r P) (h : ∀ a, P a → P' a) : OnLine r P' := by
  intro cs a rest hcs hrun
  exact (hr cs a rest hcs hrun).imp_left (h a)

/-- Either of two readers reads what both of them read. -/
theorem OnLine.orElse (hr : OnLine r P) (hr' : OnLine r' P) : OnLine (r <|> r') P := by
  intro cs a rest hcs h
  change (r.run cs).orElse (fun _ => r'.run cs) = some (a, rest) at h
  rcases hfirst : r.run cs with _ | first
  · rw [hfirst] at h
    exact hr' cs a rest hcs h
  · rw [hfirst] at h
    cases h
    exact hr cs a rest hcs hfirst

/-- A part that may be left out is as it should be if it is there. -/
theorem OnLine.maybe (hr : OnLine r P) : OnLine (maybe r) fun o => ∀ a ∈ o, P a := by
  refine .orElse (OnLine.bind hr fun a ha => .pure ?_) (.pure (by simp))
  intro b hb
  cases hb
  exact ha

/-- A fixed text leaves the rest of the line. -/
theorem onLine_expect (text : String) : OnLine (expect text) fun _ => True := by
  intro cs a rest hcs h
  obtain ⟨rest', hrest, heq⟩ := Option.map_eq_some_iff.1 h
  cases heq
  rw [← List.isPrefixOf?_eq_some_iff_append_eq.1 hrest] at hcs
  exact ⟨trivial, fun ch hch => hcs ch (List.mem_append_right _ hch)⟩

/-- A text that has to be there goes before the rest. -/
theorem OnLine.afterText {text : String} {f : Unit → Scan β} (hf : OnLine (f ()) Q) :
    OnLine (expect text >>= f) Q :=
  (onLine_expect text).bind fun _ _ => hf

/-- So does a word that has a meaning. -/
theorem onLine_word {text : String} {a : α} (h : P a) : OnLine (word text a) P :=
  .afterText (.pure h)

/-- What is taken with a condition is of the line, and meets it. -/
theorem onLine_span (p : Char → Bool) :
    OnLine (span p) (AllChars fun ch => isInLine ch && p ch) := by
  intro cs text rest hcs h
  cases h
  refine ⟨?_, fun ch hch => hcs ch ((List.dropWhile_sublist _).subset hch)⟩
  rw [allChars_ofList]
  intro ch hch
  rw [Bool.and_eq_true]
  exact ⟨hcs ch ((List.takeWhile_sublist _).subset hch),
    List.all_eq_true.1 List.all_takeWhile ch hch⟩

/-- A run that must not be empty has the characters of the line that are its own. -/
theorem onLine_spanSome (p : Char → Bool) :
    OnLine (spanSome p) (AllChars fun ch => isInLine ch && p ch) := by
  intro cs text rest hcs h
  refine onLine_span p cs text rest hcs ?_
  simp only [spanSome, StateT.run] at h
  split at h
  · cases h
  · exact h

/-- A numeral is a token. -/
theorem onLine_digits : OnLine digits (AllChars isTokenChar) :=
  (onLine_spanSome isDigit).mono fun _ h => h.mono fun _ hch =>
    isTokenChar_of_isDigit (Bool.and_eq_true _ _ ▸ hch).2

/-- A name that is read in quotes may stand in quotes. -/
theorem onLine_quoted : OnLine quoted (AllChars isQuotable) :=
  .afterText <| (onLine_spanSome _).bind fun _ h => .afterText <| .pure <|
    h.mono fun ch hch => by simpa [isQuotable] using hch

/-- The end of a line leaves nothing that is not on it. -/
theorem onLine_ending : OnLine ending fun _ => True := by
  intro cs a rest hcs h
  simp only [ending, StateT.run] at h
  split at h
  · cases h
    exact ⟨trivial, hcs⟩
  · cases h

end Scan

end Text

/-! ## Directives -/

/-- The protocol that a clause is for. -/
def ServiceClause.protocol : ServiceClause → String
  | .ports protocol _ => protocol
  | .icmp _ _ => "icmp"

namespace Directive

/-- The texts that a directive has between double quotes. -/
def quotedTexts : Directive → List String
  | .serviceContinue name _ => [name]
  | .service name _ => [name]
  | .serviceTimeout name _ => [name]
  | .address zone name _ _ description => zone :: name :: description.toList
  | .addressGroupAdd zone group member => [zone, group, member]
  | .addressGroupCreate zone group _ => [zone, group]
  | .serviceGroupAdd group member => [group, member]
  | .serviceGroupCreate group _ => [group]
  | .policyCreate h =>
    h.name.toList ++ [h.fromZone, h.toZone, h.source, h.destination, h.service]
  | .policyBlock _ => []
  | .policyFlag _ _ value => value.toList

/-- The clause of a directive that defines a service. -/
def clause? : Directive → Option ServiceClause
  | .serviceContinue _ clause => some clause
  | .service _ clause => some clause
  | _ => none

/-- The address to put in, of a directive that creates a policy. -/
def natAddress? : Directive → Option String
  | .policyCreate h => h.natAddress
  | _ => none

/-- What a directive holds is of the characters that its place on a line admits. -/
structure IsTidy (d : Directive) : Prop where
  /-- What is quoted has no double quote in it. -/
  quoted : ∀ text ∈ d.quotedTexts, AllChars isQuotable text
  /-- A protocol has no blank in it. -/
  protocol : ∀ clause ∈ d.clause?, AllChars isTokenChar clause.protocol
  /-- The address to put in is of the line. -/
  natAddress : ∀ text ∈ d.natAddress?, AllChars isInLine text

variable {d : Directive}

/-- A directive with nothing but texts in quotes is tidy if these are quotable. -/
theorem IsTidy.of_quoted (hclause : d.clause? = none) (haddress : d.natAddress? = none)
    (h : ∀ text ∈ d.quotedTexts, AllChars isQuotable text) : d.IsTidy where
  quoted := h
  protocol := by simp [hclause]
  natAddress := by simp [haddress]

/-- A directive that defines a service is tidy if its name is quotable and its protocol a token. -/
theorem IsTidy.of_clause {name : String} {clause : ServiceClause} (hquoted : d.quotedTexts = [name])
    (hclause : d.clause? = some clause) (haddress : d.natAddress? = none)
    (hname : AllChars isQuotable name) (hprotocol : AllChars isTokenChar clause.protocol) :
    d.IsTidy where
  quoted := by simpa [hquoted] using hname
  protocol := by simpa [hclause] using hprotocol
  natAddress := by simp [haddress]

end Directive

/-- A name that a line of a block has in quotes has no double quote in it. -/
def BlockLine.IsTidy : BlockLine → Prop
  | .member _ name => AllChars isQuotable name
  | .log _ => True

section forms

open Text.Scan

/-- The name of a service may stand in quotes. -/
theorem onLine_scanServiceName (link : String) :
    OnLine (scanServiceName link) (AllChars isQuotable) :=
  .afterText <| onLine_quoted.bind fun _ hname => .afterText <| .pure hname

/-- A protocol is a token. -/
theorem onLine_scanProtocol : OnLine scanProtocol (AllChars isTokenChar) :=
  .orElse (onLine_word (by decide)) (.orElse (onLine_word (by decide)) onLine_digits)

/-- Nothing needs to be said of the ends of a range. -/
theorem onLine_scanRange : OnLine scanRange fun _ => True :=
  onLine_digits.bind fun _ _ => .afterText <| onLine_digits.bind fun _ _ => .pure trivial

/-- Nor of the ports of a clause. -/
theorem onLine_scanPorts : OnLine scanPorts fun _ => True :=
  .afterText <| onLine_scanRange.bind fun _ _ => .afterText <| onLine_scanRange.bind fun _ _ =>
    .pure trivial

/-- Nor of a timeout. -/
theorem onLine_scanTimeout : OnLine scanTimeout fun _ => True :=
  (OnLine.maybe (.afterText onLine_digits)).mono fun _ _ => trivial

/-- The protocol of a clause with ports is a token. -/
theorem onLine_scanPortClause : OnLine scanPortClause fun c => AllChars isTokenChar c.protocol :=
  onLine_scanProtocol.bind fun _ hprotocol => onLine_scanPorts.maybe.bind fun _ _ =>
    onLine_scanTimeout.bind fun _ _ => onLine_ending.bind fun _ _ => .pure hprotocol

/-- So is that of the other clause. -/
theorem onLine_scanIcmpClause : OnLine scanIcmpClause fun c => AllChars isTokenChar c.protocol := by
  have hicmp : AllChars isTokenChar "icmp" := by decide
  exact .afterText <| onLine_digits.bind fun _ _ => .afterText <| onLine_digits.bind fun _ _ =>
    onLine_scanTimeout.bind fun _ _ => onLine_ending.bind fun _ _ => .pure hicmp

/-- Nothing needs to be said of a comment. -/
theorem onLine_scanComment : OnLine scanComment fun _ => True :=
  .afterText <| (onLine_span _).bind fun _ _ => .pure trivial

/-- Nor of a mask. -/
theorem onLine_scanDottedQuad : OnLine scanDottedQuad fun _ => True :=
  onLine_digits.bind fun _ _ => .afterText <| onLine_digits.bind fun _ _ => .afterText <|
    onLine_digits.bind fun _ _ => .afterText <| onLine_digits.bind fun _ _ => .pure trivial

/-- Nor of the number of a policy. -/
theorem onLine_scanPolicyId : OnLine scanPolicyId fun _ => True :=
  .afterText <| onLine_digits.mono fun _ _ => trivial

/-- Nor of what ends a creation. -/
theorem onLine_scanPolicyEnd : OnLine scanPolicyEnd fun _ => True := by
  have haction : OnLine
      (word "permit" Action.permit <|> word "deny" .deny <|> word "reject" .reject)
      fun _ => True := .orElse (onLine_word trivial) (.orElse (onLine_word trivial)
        (onLine_word trivial))
  exact (OnLine.maybe (.afterText onLine_digits)).bind fun _ _ =>
    (onLine_expect _).maybe.bind fun _ _ => haction.bind fun _ _ =>
    (onLine_expect _).maybe.bind fun _ _ => (onLine_expect _).maybe.bind fun _ _ => .pure trivial

/-- The longest run in front of what can be read has characters of the line. -/
theorem onLine_scanLongest {α : Type} {r : Scan α} {P : α → Prop} (h : OnLine r P) (n : Nat) :
    OnLine (scanLongest r n) fun x => AllChars isInLine x.1 := by
  intro cs a rest hcs hrun
  induction n with
  | zero => cases hrun
  | succ n ih =>
      simp only [scanLongest, StateT.run] at hrun
      split at hrun
      · rename_i value rest' hvalue
        cases hrun
        have hrest : ∀ ch ∈ cs.drop (n + 1), isInLine ch :=
          fun ch hch => hcs ch (List.mem_of_mem_drop hch)
        exact ⟨allChars_ofList.2 fun ch hch => hcs ch (List.mem_of_mem_take hch),
          (h _ _ _ hrest hvalue).2⟩
      · exact ih hrun

/-- So has the address that is put in. -/
theorem onLine_scanNatAddress :
    OnLine scanNatAddress fun x => ∀ text ∈ x.1, AllChars isInLine text := by
  intro cs a rest hcs hrun
  simp only [scanNatAddress, StateT.run] at hrun
  split at hrun
  · rename_i rest' hip
    obtain ⟨⟨⟨address, tail⟩, left⟩, hlongest, heq⟩ := Option.map_eq_some_iff.1 hrun
    cases heq
    have hrest := (onLine_expect _ _ _ _ hcs hip).2
    obtain ⟨haddress, hleft⟩ := onLine_scanLongest onLine_scanPolicyEnd _ _ _ _ hrest hlongest
    exact ⟨fun text htext => Option.mem_some_iff.1 htext ▸ haddress, hleft⟩
  · obtain ⟨⟨tail, left⟩, hend, heq⟩ := Option.map_eq_some_iff.1 hrun
    cases heq
    exact ⟨by simp, (onLine_scanPolicyEnd _ _ _ hcs hend).2⟩

/-- The texts of a creation are tidy. -/
theorem onLine_scanPolicyCreate : OnLine scanPolicyCreate Directive.IsTidy := by
  have hname : OnLine (do expect "name "; let name ← quoted; expect " "; return name)
      (AllChars isQuotable) :=
    .afterText <| onLine_quoted.bind fun _ hname => .afterText <| .pure hname
  have hnat : OnLine (word "nat src" NatMode.source <|> word "nat dst" NatMode.destination)
      fun _ => True := .orElse (onLine_word trivial) (onLine_word trivial)
  refine onLine_scanPolicyId.bind fun id _ => .afterText <| hname.maybe.bind fun name hname =>
    .afterText <| onLine_quoted.bind fun fromZone hfrom => .afterText <|
    onLine_quoted.bind fun toZone hto => (onLine_spanSome _).bind fun _ _ =>
    onLine_quoted.bind fun source hsource => .afterText <|
    onLine_quoted.bind fun destination hdestination => .afterText <|
    onLine_quoted.bind fun service hservice => .afterText <| hnat.maybe.bind fun nat _ =>
    onLine_scanNatAddress.bind ?_
  rintro ⟨natAddress, natPort, action, log⟩ haddress
  refine .pure ⟨?_, by simp [Directive.clause?], haddress⟩
  intro text htext
  simp only [Directive.quotedTexts, List.mem_append, Option.mem_toList, List.mem_cons,
    List.not_mem_nil, or_false] at htext
  rcases htext with htext | rfl | rfl | rfl | rfl | rfl
  · exact hname text htext
  · exact hfrom
  · exact hto
  · exact hsource
  · exact hdestination
  · exact hservice

/-- A form for a service with a clause yields tidy directives. -/
theorem onLine_serviceForm {link : String} {scan : Scan ServiceClause}
    {make : String → ServiceClause → Directive}
    (hscan : OnLine scan fun c => AllChars isTokenChar c.protocol)
    (hmake : ∀ name c, (make name c).quotedTexts = [name] ∧ (make name c).clause? = some c ∧
      (make name c).natAddress? = none) :
    OnLine (do let name ← scanServiceName link; let c ← scan; return make name c)
      Directive.IsTidy := by
  refine (onLine_scanServiceName link).bind fun name hname => hscan.bind fun c hc => .pure ?_
  obtain ⟨hquoted, hclause, haddress⟩ := hmake name c
  exact .of_clause hquoted hclause haddress hname hc

/-- So are those of a line for a timeout. -/
theorem onLine_scanServiceTimeout : OnLine scanServiceTimeout Directive.IsTidy := by
  have hsetting : OnLine
      ((do expect "timeout "; return "timeout " ++ (← digits)) <|>
        word "session-cache" "session-cache") fun _ => True :=
    .orElse (.afterText <| onLine_digits.bind fun _ _ => .pure trivial) (onLine_word trivial)
  refine (onLine_scanServiceName _).bind fun name hname => hsetting.bind fun _ _ =>
    onLine_ending.bind fun _ _ => .pure (.of_quoted rfl rfl ?_)
  simpa [Directive.quotedTexts] using hname

/-- So are those of an address line. -/
theorem onLine_scanAddress : OnLine scanAddress Directive.IsTidy := by
  have hmask : OnLine (do expect " "; scanDottedQuad) fun _ => True :=
    .afterText onLine_scanDottedQuad
  have hdescription : OnLine
      (do expect " \""; let text ← span (· ≠ '"'); expect "\""; return text)
      (AllChars isQuotable) :=
    .afterText <| (onLine_span _).bind fun _ htext => .afterText <| .pure <|
      htext.mono fun ch hch => by simpa [isQuotable] using hch
  refine .afterText <| onLine_quoted.bind fun zone hzone => .afterText <|
    onLine_quoted.bind fun name hname => .afterText <| (onLine_spanSome _).bind fun _ _ =>
    hmask.maybe.bind fun _ _ => hdescription.maybe.bind fun _ htext =>
    onLine_ending.bind fun _ _ => .pure (.of_quoted rfl rfl ?_)
  simpa [Directive.quotedTexts, hzone, hname] using htext

/-- So are those of a line that adds to a group of addresses. -/
theorem onLine_scanAddressGroupAdd : OnLine scanAddressGroupAdd Directive.IsTidy := by
  refine .afterText <| onLine_quoted.bind fun zone hzone => .afterText <|
    onLine_quoted.bind fun group hgroup => .afterText <| onLine_quoted.bind fun member hmember =>
    onLine_ending.bind fun _ _ => .pure (.of_quoted rfl rfl ?_)
  simp [Directive.quotedTexts, hzone, hgroup, hmember]

/-- So are those of a line that names a group of addresses. -/
theorem onLine_scanAddressGroupCreate : OnLine scanAddressGroupCreate Directive.IsTidy := by
  refine .afterText <| onLine_quoted.bind fun zone hzone => .afterText <|
    onLine_quoted.bind fun group hgroup => onLine_scanComment.maybe.bind fun _ _ =>
    onLine_ending.bind fun _ _ => .pure (.of_quoted rfl rfl ?_)
  simp [Directive.quotedTexts, hzone, hgroup]

/-- So are those of a line that adds to a group of services. -/
theorem onLine_scanServiceGroupAdd : OnLine scanServiceGroupAdd Directive.IsTidy := by
  refine .afterText <| onLine_quoted.bind fun group hgroup => .afterText <|
    onLine_quoted.bind fun member hmember => onLine_ending.bind fun _ _ =>
    .pure (.of_quoted rfl rfl ?_)
  simp [Directive.quotedTexts, hgroup, hmember]

/-- So are those of a line that names a group of services. -/
theorem onLine_scanServiceGroupCreate : OnLine scanServiceGroupCreate Directive.IsTidy := by
  refine .afterText <| onLine_quoted.bind fun group hgroup =>
    onLine_scanComment.maybe.bind fun _ _ => onLine_ending.bind fun _ _ =>
    .pure (.of_quoted rfl rfl ?_)
  simp [Directive.quotedTexts, hgroup]

/-- So are those of a line that opens a block. -/
theorem onLine_scanPolicyBlock : OnLine scanPolicyBlock Directive.IsTidy := by
  refine onLine_scanPolicyId.bind fun _ _ => onLine_ending.bind fun _ _ =>
    .pure (.of_quoted rfl rfl ?_)
  simp [Directive.quotedTexts]

/-- So are those of a flag line. -/
theorem onLine_scanPolicyFlag : OnLine scanPolicyFlag Directive.IsTidy := by
  have hflag : OnLine (word "disable" PolicyFlag.disable <|> word "application" .application)
      fun _ => True := .orElse (onLine_word trivial) (onLine_word trivial)
  refine onLine_scanPolicyId.bind fun _ _ => .afterText <| hflag.bind fun _ _ =>
    (onLine_expect _).maybe.bind fun _ _ => onLine_quoted.maybe.bind fun _ hvalue =>
    onLine_ending.bind fun _ _ => .pure (.of_quoted rfl rfl ?_)
  simpa [Directive.quotedTexts] using hvalue

/-- **Every form yields tidy directives.** -/
theorem onLine_of_mem_families {f : Family} (hf : f ∈ families) {form : Scan Directive}
    (hform : form ∈ f.forms) : OnLine form Directive.IsTidy := by
  simp only [families, List.mem_cons, List.not_mem_nil, or_false] at hf
  rcases hf with rfl | rfl | rfl | rfl | rfl
  · simp only [List.mem_cons, List.not_mem_nil, or_false] at hform
    rcases hform with rfl | rfl | rfl | rfl | rfl
    · exact onLine_serviceForm onLine_scanPortClause fun _ _ => ⟨rfl, rfl, rfl⟩
    · exact onLine_serviceForm onLine_scanIcmpClause fun _ _ => ⟨rfl, rfl, rfl⟩
    · exact onLine_serviceForm onLine_scanPortClause fun _ _ => ⟨rfl, rfl, rfl⟩
    · exact onLine_serviceForm onLine_scanIcmpClause fun _ _ => ⟨rfl, rfl, rfl⟩
    · exact onLine_scanServiceTimeout
  · rw [List.mem_singleton.1 hform]
    exact onLine_scanAddress
  · simp only [List.mem_cons, List.not_mem_nil, or_false] at hform
    rcases hform with rfl | rfl
    · exact onLine_scanAddressGroupAdd
    · exact onLine_scanAddressGroupCreate
  · simp only [List.mem_cons, List.not_mem_nil, or_false] at hform
    rcases hform with rfl | rfl
    · exact onLine_scanServiceGroupAdd
    · exact onLine_scanServiceGroupCreate
  · simp only [List.mem_cons, List.not_mem_nil, or_false] at hform
    rcases hform with rfl | rfl | rfl
    · exact onLine_scanPolicyCreate
    · exact onLine_scanPolicyBlock
    · exact onLine_scanPolicyFlag

/-- So are those of a line of a block. -/
theorem onLine_blockLine : OnLine (scanBlockMember <|> scanBlockLog) BlockLine.IsTidy := by
  have hkind : OnLine
      (word "service" MemberKind.service <|> word "dst-address" .destination <|>
        word "src-address" .source) fun _ => True :=
    .orElse (onLine_word trivial) (.orElse (onLine_word trivial) (onLine_word trivial))
  refine .orElse ?_ ?_
  · exact .afterText <| hkind.bind fun _ _ => .afterText <| onLine_quoted.bind fun _ hname =>
      onLine_ending.bind fun _ _ => .pure hname
  · exact .afterText <| (onLine_span _).bind fun _ _ => onLine_ending.bind fun _ _ => .pure trivial

end forms

/-! ## Lines -/

/-- The directive of a line is tidy. -/
theorem isTidy_of_classify {line : String} {d : Directive} (hline : AllChars isInLine line)
    (h : Directive.classify line = .ok (some d)) : d.IsTidy := by
  obtain ⟨f, hf, hread⟩ := exists_read_of_classifyIn h
  obtain ⟨form, hform, hrun⟩ := List.exists_of_findSome?_eq_some hread
  obtain ⟨⟨d', rest⟩, hresult, rfl⟩ := Option.map_eq_some_iff.1 hrun
  exact (onLine_of_mem_families hf hform _ _ _ hline hresult).1

/-- What a line of a block says is tidy. -/
theorem isTidy_of_blockLine_classify {line : String} {l : BlockLine}
    (hline : AllChars isInLine line) (h : BlockLine.classify line = .ok l) : l.IsTidy := by
  rw [BlockLine.classify] at h
  split at h
  · rename_i hrun
    cases h
    obtain ⟨⟨l', rest⟩, hresult, rfl⟩ := Option.map_eq_some_iff.1 hrun
    exact (onLine_blockLine _ _ _ hline hresult).1
  · cases h

/-- What a line tells is tidy. -/
def Instruction.IsTidy : Instruction → Prop
  | .directive d => d.IsTidy
  | .inBlock _ l => l.IsTidy

/-- What a line instructs is tidy if the line has no end of a line in it. -/
theorem isTidy_of_instructionOf? {text : String} {b : Option OpenBlock} {i : Instruction}
    (htext : AllChars isInLine text) (h : instructionOf? text b = some i) : i.IsTidy := by
  have htrim : AllChars isInLine (trim text) := allChars_trim htext
  rcases b with _ | b
  · rw [instructionOf?, Option.map_eq_some_iff] at h
    obtain ⟨d, hd, rfl⟩ := h
    exact isTidy_of_classify htrim (directiveOf?_eq_some.1 hd)
  · rw [instructionOf?, Option.map_eq_some_iff] at h
    obtain ⟨l, hl, rfl⟩ := h
    rw [blockLineOf?] at hl
    rcases hclass : BlockLine.classify (trim text) with fault | l'
    · rw [hclass] at hl
      cases hl
    · rw [hclass] at hl
      cases hl
      exact isTidy_of_blockLine_classify htrim hclass

/-- **Everything that lines tell is tidy.** -/
theorem isTidy_of_mem_instructionsOf {texts : List String}
    (htexts : ∀ text ∈ texts, AllChars isInLine text) {i : Instruction}
    (h : i ∈ instructionsOf texts) : i.IsTidy := by
  induction texts using List.reverseRecOn with
  | nil => cases h
  | append_singleton texts text ih =>
      rw [instructionsOf, numberedInstructions_append_singleton, List.map_append,
        List.mem_append] at h
      rcases h with h | h
      · exact ih (fun t ht => htexts t (List.mem_append_left _ ht)) h
      · have htext := htexts text (List.mem_append_right _ List.mem_cons_self)
        refine isTidy_of_instructionOf? (b := openBlock texts) htext ?_
        simpa using h

/-- So are their directives. -/
theorem isTidy_of_mem_directivesOf {texts : List String}
    (htexts : ∀ text ∈ texts, AllChars isInLine text) {d : Directive} (h : d ∈ directivesOf texts) :
    d.IsTidy := by
  rw [directivesOf_eq] at h
  obtain ⟨i, hi, hd⟩ := List.mem_filterMap.1 h
  have htidy := isTidy_of_mem_instructionsOf htexts hi
  cases i with
  | directive d' =>
      cases hd
      exact htidy
  | inBlock id l => cases hd

end ZoneFirewall
