import ZoneFirewall.Proofs.RequiredRules
import ZoneFirewall.Proofs.ScriptLines

/-!
# Reading statements back

A statement is written as words with a space between them, of which the fields are names and values
with `=` between them. Names of zones and references are values too, and are not put in quotes: one
with a space in it is two words to a reader.

* `beforeComment`, `wordsOf`, `fieldsOf`: what a reader finds that splits a line at spaces.
* `Statement.IsTokenized`: that the reader finds what was written; `isTokenized_iff`: **it does
  exactly if no value has a space in it.**
* `Configuration.IsServed`: that a policy has rules. `values_statements_iff`: no value of a script
  has a space in it exactly if no name has one that goes into the name of a list or a chain.
* `isTokenized_statements_iff`: **so the reader finds all statements as they were written exactly if
  no such name has a space in it.**
-/

namespace ZoneFirewall

open Text

/-! ## A reader of statements -/

/-- What starts the comment of a statement. -/
def commentMark : List Char := ' ' :: ("comment".toList ++ ['='])

/-- What is before the comment. -/
def beforeComment : List Char → List Char
  | [] => []
  | ch :: cs => if commentMark <+: ch :: cs then [] else ch :: beforeComment cs

/-- The words before the comment of a line. -/
def wordsOf (line : String) : List (List Char) := (beforeComment line.toList).splitOn ' '

/-- A word cut at its first `=`. -/
def cutWord (word : List Char) : String × String :=
  (String.ofList (word.takeWhile (· ≠ '=')), String.ofList (word.dropWhile (· ≠ '=')).tail)

/-- The fields of a line: its words after the first. -/
def fieldsOf (line : String) : List (String × String) := (wordsOf line).tail.map cutWord

/-- No piece of a list has in it what the list was split at. -/
theorem not_mem_of_mem_splitOn {mark : Char} {cs piece : List Char} (h : piece ∈ cs.splitOn mark) :
    mark ∉ piece := by
  induction cs generalizing piece with
  | nil =>
      rw [List.splitOn_nil, List.mem_singleton] at h
      rw [h]
      exact List.not_mem_nil
  | cons ch cs ih =>
      rw [List.splitOn_cons_eq_if_modifyHead] at h
      split at h
      · rcases List.mem_cons.1 h with rfl | h
        · exact List.not_mem_nil
        · exact ih h
      · rename_i hch
        -- the character goes in front of the first piece
        obtain ⟨first, pieces, hpieces⟩ := List.exists_cons_of_ne_nil (List.splitOn_ne_nil mark cs)
        rw [hpieces] at h ih
        rw [List.modifyHead_cons] at h
        rcases List.mem_cons.1 h with rfl | h
        · have hne : mark ≠ ch := fun heq => hch (by simp [heq])
          simpa [hne] using ih List.mem_cons_self
        · exact ih (List.mem_cons_of_mem _ h)

/-! ## Fields -/

/-- A name without an equals sign is passed over character by character. -/
theorem forall_ne_equals {name : String} (hname : '=' ∉ name.toList) :
    ∀ ch ∈ name.toList, decide (ch ≠ '=') = true := by
  intro ch hch
  exact decide_eq_true fun heq => hname (heq ▸ hch)

/-- The name of a field is what stands in front of its first equals sign. -/
theorem takeWhile_fieldText {name : String} (hname : '=' ∉ name.toList) (rest : List Char) :
    (name.toList ++ '=' :: rest).takeWhile (· ≠ '=') = name.toList := by
  rw [List.takeWhile_append_of_pos (forall_ne_equals hname)]
  simp

/-- Behind it is the sign with the value. -/
theorem dropWhile_fieldText {name : String} (hname : '=' ∉ name.toList) (rest : List Char) :
    (name.toList ++ '=' :: rest).dropWhile (· ≠ '=') = '=' :: rest := by
  rw [List.dropWhile_append_of_pos (forall_ne_equals hname)]
  simp

/-- The characters of a field are its name, an equals sign and its value. -/
theorem toList_fieldText (f : String × String) :
    (fieldText f).toList = f.1.toList ++ '=' :: f.2.toList := by
  simp [fieldText]

/-- Cutting the text of a field gives its name and its value. -/
theorem cutWord_fieldText {f : String × String} (hname : '=' ∉ f.1.toList) :
    cutWord (fieldText f).toList = f := by
  rw [cutWord, toList_fieldText, takeWhile_fieldText hname, dropWhile_fieldText hname]
  simp

/-- What is cut off a word is in the word. -/
theorem mem_word_of_mem_cutWord {word : List Char} {ch : Char}
    (h : ch ∈ (cutWord word).2.toList) : ch ∈ word := by
  rw [cutWord, String.toList_ofList] at h
  exact (List.dropWhile_sublist _).subset (List.mem_of_mem_tail h)

/-- The names of fields have no `=` and no space in them, and none is that of a comment. -/
theorem fieldNames_plain :
    ∀ name ∈ fieldNames, '=' ∉ name.toList ∧ ' ' ∉ name.toList ∧ name ≠ "comment" := by
  decide

/-! ## What is before a comment -/

/-- In front of a comment at the start there is nothing. -/
theorem beforeComment_mark (rest : List Char) : beforeComment (commentMark ++ rest) = [] := by
  rw [commentMark, List.cons_append, beforeComment, if_pos]
  exact ⟨rest, rfl⟩

/-- A comment does not start before a space. -/
theorem beforeComment_append {cs : List Char} (h : ' ' ∉ cs) (rest : List Char) :
    beforeComment (cs ++ rest) = cs ++ beforeComment rest := by
  induction cs with
  | nil => rfl
  | cons ch cs ih =>
      obtain ⟨hch, hcs⟩ : ' ' ≠ ch ∧ ' ' ∉ cs := by simpa using h
      have hno : ¬ commentMark <+: ch :: (cs ++ rest) := fun hmark =>
        hch (List.cons_prefix_cons.1 hmark).1
      rw [List.cons_append, beforeComment, if_neg hno, ih hcs, List.cons_append]

/-- A comment does not start with a field of another name. -/
theorem beforeComment_field {f : String × String} (hf : f.1 ∈ fieldNames)
    (hvalue : ' ' ∉ f.2.toList) (rest : List Char) :
    beforeComment (' ' :: (fieldText f).toList ++ rest)
      = ' ' :: (fieldText f).toList ++ beforeComment rest := by
  obtain ⟨hequals, hspace, hcomment⟩ := fieldNames_plain f.1 hf
  have hword : ' ' ∉ (fieldText f).toList := by
    simp [toList_fieldText, hspace, hvalue]
  have hno : ¬ commentMark <+: ' ' :: ((fieldText f).toList ++ rest) := by
    intro hmark
    obtain ⟨t, ht⟩ := (List.cons_prefix_cons.1 hmark).2
    rw [toList_fieldText, List.append_assoc, List.append_assoc] at ht
    -- up to the first `=`, one side reads `comment` and the other the name of the field
    have htake := congrArg (List.takeWhile (· ≠ '=')) ht
    rw [List.cons_append, List.cons_append, takeWhile_fieldText (by decide),
      takeWhile_fieldText hequals, String.toList_inj] at htake
    exact hcomment htake.symm
  rw [List.cons_append, beforeComment, if_neg hno, beforeComment_append hword, List.cons_append]

/-- Words with a space between them are the first word, and the others each after a space. -/
theorem toList_intercalate_fields (first : String) (fs : List (String × String)) :
    (" ".intercalate (first :: fs.map fieldText)).toList
      = first.toList ++ fs.flatMap fun f => ' ' :: (fieldText f).toList := by
  induction fs generalizing first with
  | nil => simp
  | cons f fs ih =>
      rw [List.map_cons, String.intercalate_cons_cons, String.toList_append, ih,
        String.toList_append, List.flatMap_cons, List.append_assoc]
      rfl

namespace Statement

variable {s : Statement}

/-- If no value has a space in it, the reader stops at the comment. -/
theorem beforeComment_text (hnames : ∀ f ∈ s.assignments, f.1 ∈ fieldNames)
    (hvalues : ∀ f ∈ s.assignments, ' ' ∉ f.2.toList) :
    beforeComment s.text.toList = (" ".intercalate s.words).toList := by
  have hfields : ∀ (fs : List (String × String)) (rest : List Char),
      (∀ f ∈ fs, f.1 ∈ fieldNames) → (∀ f ∈ fs, ' ' ∉ f.2.toList) →
      beforeComment ((fs.flatMap fun f => ' ' :: (fieldText f).toList) ++ (commentMark ++ rest))
        = fs.flatMap fun f => ' ' :: (fieldText f).toList := by
    intro fs rest hnames hvalues
    induction fs with
    | nil => exact beforeComment_mark rest
    | cons f fs ih =>
        obtain ⟨hname, hnames⟩ := List.forall_mem_cons.1 hnames
        obtain ⟨hvalue, hvalues⟩ := List.forall_mem_cons.1 hvalues
        rw [List.flatMap_cons, List.append_assoc, beforeComment_field hname hvalue,
          ih hnames hvalues]
  have hmark : " comment=\"".toList = commentMark ++ ['"'] := rfl
  rw [text_eq, words, String.toList_append, String.toList_append, String.toList_append, hmark,
    toList_intercalate_fields, List.append_assoc, List.append_assoc, List.append_assoc,
    List.append_assoc, beforeComment_append (by decide), hfields _ _ hnames hvalues]

/-- The fields keep the syntax of tokens: a reader finds what was written. -/
structure IsTokenized (s : Statement) : Prop where
  /-- The words before the comment are the words of the statement. -/
  words : wordsOf s.text = s.words.map String.toList
  /-- After the first they are the fields, with their names and values. -/
  fields : fieldsOf s.text = s.assignments

/-- A reader who finds the fields as they were written has found no space in a value. -/
theorem IsTokenized.values (h : s.IsTokenized) : ∀ f ∈ s.assignments, ' ' ∉ f.2.toList := by
  intro f hf hspace
  rw [← h.fields] at hf
  obtain ⟨word, hword, rfl⟩ := List.mem_map.1 hf
  exact not_mem_of_mem_splitOn (List.mem_of_mem_tail hword) (mem_word_of_mem_cutWord hspace)

/-- **A reader finds what was written exactly if no value has a space in it.** -/
theorem isTokenized_iff (hnames : ∀ f ∈ s.assignments, f.1 ∈ fieldNames) :
    s.IsTokenized ↔ ∀ f ∈ s.assignments, ' ' ∉ f.2.toList := by
  refine ⟨IsTokenized.values, fun hvalues => ?_⟩
  have hspace : ∀ word ∈ s.words.map String.toList, ' ' ∉ word := by
    rw [words, List.map_cons, List.map_map, List.forall_mem_cons]
    refine ⟨by decide, fun word hword => ?_⟩
    obtain ⟨f, hf, rfl⟩ := List.mem_map.1 hword
    simp [toList_fieldText, (fieldNames_plain f.1 (hnames f hf)).2.1, hvalues f hf]
  have hwords : wordsOf s.text = s.words.map String.toList := by
    have hmark : " ".toList = [' '] := rfl
    rw [wordsOf, beforeComment_text hnames hvalues, String.toList_intercalate, hmark,
      List.splitOn_intercalate ' ' hspace (by simp [words])]
  refine ⟨hwords, ?_⟩
  rw [fieldsOf, hwords, words, List.map_cons, List.tail_cons, List.map_map, List.map_map]
  calc s.assignments.map (cutWord ∘ String.toList ∘ fieldText)
      = s.assignments.map id := List.map_congr_left fun f hf =>
        cutWord_fieldText (fieldNames_plain f.1 (hnames f hf)).1
    _ = s.assignments := List.map_id _

end Statement

/-! ## The statements of a script -/

/-- All statements are lines that add something. -/
theorem filter_texts (statements : List Statement) :
    (statements.map (·.text)).filter (fun line => StartsWith "add " line)
      = statements.map (·.text) := by
  refine List.filter_eq_self.2 fun line hline => ?_
  obtain ⟨statement, -, rfl⟩ := List.mem_map.1 hline
  exact decide_eq_true (startsWith_statement statement)

/-- The lines of a block that add something are the statements for its rules. -/
theorem PolicyRules.filter_lines (b : PolicyRules) :
    b.lines.filter (fun line => StartsWith "add " line)
      = (b.rules.map (·.statement)).map (·.text) := by
  have hheader : ¬ StartsWith "add " ("# " ++ b.header) := by
    rintro ⟨rest, hrest⟩
    rw [String.toList_append] at hrest
    cases hrest
  have hrules : b.rules.map (·.text) = (b.rules.map (·.statement)).map (·.text) := by
    rw [List.map_map]
    exact List.map_congr_left fun r _ => r.text_eq
  have hend : [""].filter (fun line => StartsWith "add " line) = [] := by decide
  rw [lines, List.cons_append, List.filter_cons_of_neg (by simpa using hheader),
    List.filter_append, hrules, filter_texts, hend, List.append_nil]

/-- The lines of a script that add something are its statements. -/
theorem Script.filter_lines (s : Script) :
    s.lines.filter (fun line => StartsWith "add " line) = s.statements.map (·.text) := by
  have hfront : [listsHeader].filter (fun line => StartsWith "add " line) = [] := by decide
  have hmiddle : ["", "", filterHeader].filter (fun line => StartsWith "add " line) = [] := by
    decide
  have hlists : listLines s.lists = (s.lists.map (·.statement)).map (·.text) := by
    rw [listLines, List.map_map]
    rfl
  rw [lines, ← List.singleton_append, List.filter_append, List.filter_append, List.filter_append,
    hfront, hmiddle, hlists, filter_texts, ruleLines, List.filter_flatMap]
  simp only [PolicyRules.filter_lines, statements, rules, List.map_append, List.map_flatMap,
    List.nil_append, List.append_nil]

/-- A side has at most one of two fields. -/
theorem AddressMatch.names_sublist (side : String) (m : AddressMatch) :
    ((m.assignments side).map (·.1)).Sublist [side ++ "-address", side ++ "-address-list"] := by
  rcases m with _ | address | name
  · exact List.nil_sublist _
  · exact (List.nil_sublist _).cons_cons _
  · exact .cons _ (.refl _)

/-- Ports have at most one field. -/
theorem portNames_sublist (side : String) (ranges : List PortRange) :
    ((portAssignments side ranges).map (·.1)).Sublist [side ++ "-port"] := by
  unfold portAssignments
  split
  · exact List.nil_sublist _
  · exact .refl _

/-- So does everything that is written or left out. -/
theorem optionNames_sublist (p : Prop) [Decidable p] (f : String × String) :
    ((if p then [f] else []).map (·.1)).Sublist [f.1] := by
  split
  · exact .refl _
  · exact List.nil_sublist _

/-- The fields of a rule are in the order of the names of fields. -/
theorem Rule.names_sublist (r : Rule) : (r.assignments.map (·.1)).Sublist fieldNames := by
  have hfields : fieldNames = ["list", "address"] ++ (["chain"]
      ++ ["src-address", "src-address-list"]
      ++ ["dst-address", "dst-address-list"] ++ ["protocol"] ++ ["src-port"] ++ ["dst-port"]
      ++ ["icmp-options"] ++ ["action"] ++ ["log"]) := rfl
  rw [hfields, Rule.assignments]
  simp only [List.map_append]
  refine .trans ?_ (List.sublist_append_right _ _)
  refine ((((((((List.Sublist.refl _).append ?_).append ?_).append ?_).append ?_).append
    ?_).append ?_).append (.refl _)).append ?_
  · exact AddressMatch.names_sublist "src" r.source
  · exact AddressMatch.names_sublist "dst" r.destination
  · rw [← ite_not]
    exact optionNames_sublist _ ("protocol", _)
  · exact portNames_sublist "src" r.sourcePorts
  · exact portNames_sublist "dst" r.destinationPorts
  · exact optionNames_sublist _ ("icmp-options", _)
  · exact optionNames_sublist _ ("log", _)

/-- A side whose value is made of names is matched by the list of this name. -/
theorem AddressMatch.eq_of_mem_nameFields {side : String} {m : AddressMatch} {f : String × String}
    (hside : side ++ "-address" ∉ nameFields) (hf : f ∈ m.assignments side)
    (hname : f.1 ∈ nameFields) : m = .list f.2 := by
  rcases m with _ | address | name
  · cases hf
  · rw [List.mem_singleton.1 hf] at hname
    exact absurd hname hside
  · rw [List.mem_singleton.1 hf]

/-- A rule names its chain. -/
theorem Rule.chain_mem_assignments (r : Rule) : ("chain", r.chain) ∈ r.assignments := by
  simp [assignments]

/-- The name of a list for a side of a rule is the value of one of its fields. -/
theorem Rule.exists_assignment_of_list {r : Rule} {name : String}
    (h : r.source = .list name ∨ r.destination = .list name) : ∃ f ∈ r.assignments, f.2 = name := by
  rcases h with h | h
  · exact ⟨("src-address-list", name), by simp [assignments, h, AddressMatch.assignments], rfl⟩
  · exact ⟨("dst-address-list", name), by simp [assignments, h, AddressMatch.assignments], rfl⟩

/-- A value of a rule that is made of names is its chain, or the name of a list for a side. -/
theorem Rule.eq_of_mem_nameFields {r : Rule} {f : String × String} (hf : f ∈ r.assignments)
    (hname : f.1 ∈ nameFields) :
    f.2 = r.chain ∨ r.source = .list f.2 ∨ r.destination = .list f.2 := by
  -- the other fields have other names
  have hother : ∀ {names : List String} {fs : List (String × String)},
      (fs.map (·.1)).Sublist names → (∀ n ∈ names, n ∉ nameFields) → f ∉ fs :=
    fun hsub hnames hmem => hnames f.1 (hsub.subset (List.mem_map_of_mem hmem)) hname
  simp only [assignments, ← ite_not (r.protocol = ""), List.mem_append] at hf
  rcases hf with (((((((hf | hf) | hf) | hf) | hf) | hf) | hf) | hf) | hf
  · exact .inl (by rw [List.mem_singleton.1 hf])
  · exact .inr (.inl (AddressMatch.eq_of_mem_nameFields (by decide) hf hname))
  · exact .inr (.inr (AddressMatch.eq_of_mem_nameFields (by decide) hf hname))
  · exact absurd hf (hother (optionNames_sublist _ ("protocol", _))
      (by decide : ∀ n ∈ ["protocol"], n ∉ nameFields))
  · exact absurd hf (hother (portNames_sublist "src" _) (by decide))
  · exact absurd hf (hother (portNames_sublist "dst" _) (by decide))
  · exact absurd hf (hother (optionNames_sublist _ ("icmp-options", _)) (by decide))
  · exact absurd hf (hother (.refl _) (by cases r.verdict <;> decide))
  · exact absurd hf (hother (optionNames_sublist _ ("log", _)) (by decide))

/-- There is no space in a token. -/
theorem space_not_mem {s : String} (h : AllChars isTokenChar s) : ' ' ∉ s.toList := by
  intro hmem
  cases h ' ' hmem

/-- Of the values of an entry only the name of the list can have a space in it. -/
theorem ListEntry.values_iff (e : ListEntry) :
    (∀ f ∈ e.statement.assignments, ' ' ∉ f.2.toList) ↔ ' ' ∉ e.list.toList := by
  have haddress : ' ' ∉ e.address.text.toList := space_not_mem e.address.allChars_text
  simp [ListEntry.statement, haddress]

/-- Of those of a rule only the chain and the names of lists can. -/
theorem Rule.values_iff {r : Rule} (h : r.statement.IsTidy) :
    (∀ f ∈ r.statement.assignments, ' ' ∉ f.2.toList) ↔ ' ' ∉ r.chain.toList ∧
      ∀ name, r.source = .list name ∨ r.destination = .list name → ' ' ∉ name.toList := by
  constructor
  · intro hvalues
    refine ⟨hvalues ("chain", r.chain) r.chain_mem_assignments, fun name hname => ?_⟩
    obtain ⟨f, hf, rfl⟩ := r.exists_assignment_of_list hname
    exact hvalues f hf
  · rintro ⟨hchain, hlists⟩ f hf
    by_cases hname : f.1 ∈ nameFields
    · rcases Rule.eq_of_mem_nameFields hf hname with heq | hlist
      · rw [heq]
        exact hchain
      · exact hlists f.2 hlist
    · exact space_not_mem ((h.assignments f hf).token hname)

/-- The name made of two has a space in it only if one of them has. -/
theorem space_not_mem_joinNames {first second : String} :
    ' ' ∉ (joinNames first second).toList ↔ ' ' ∉ first.toList ∧ ' ' ∉ second.toList := by
  have hmark : ' ' ∉ "__".toList := by decide
  simp only [joinNames, String.toList_append, List.mem_append, hmark, or_false, not_or]

namespace Configuration

variable {c : Configuration} {policies : List Policy} {p : Policy}

/-- There are services of the policy, and on each side a reference that comes to something. -/
def IsServed (c : Configuration) (p : Policy) : Prop :=
  p.services ≠ [] ∧ (∃ r ∈ p.sourceReferences, c.entriesOf r ≠ []) ∧
    ∃ r ∈ p.destinationReferences, c.entriesOf r ≠ []

/-- There are endpoints exactly if one of the references comes to something. -/
theorem endpointsOf_ne_nil_iff {refs : List Reference} :
    c.endpointsOf refs ≠ [] ↔ ∃ r ∈ refs, c.entriesOf r ≠ [] := by
  constructor
  · intro hsome
    obtain ⟨e, he⟩ := List.exists_mem_of_ne_nil _ hsome
    obtain ⟨r, hr, hof⟩ := mem_endpointsOf.1 he
    refine ⟨r, hr, fun hnil => ?_⟩
    rw [hnil] at hof
    cases hof
  · rintro ⟨r, hr, hne⟩
    obtain ⟨e, he⟩ : ∃ e, Endpoint.ofResolved? r (c.entriesOf r) = some e := by
      rcases hitems : c.entriesOf r with _ | ⟨item, _ | ⟨item', items⟩⟩
      · exact absurd hitems hne
      · exact ⟨_, rfl⟩
      · exact ⟨_, rfl⟩
    exact List.ne_nil_of_mem (mem_endpointsOf.2 ⟨r, hr, he⟩)

/-- A policy that compiles has a rule exactly if it is served. -/
theorem exists_mem_rulesOf_iff (hcompiles : c.Compiles p) :
    (∃ r, r ∈ c.rulesOf p) ↔ c.IsServed p := by
  rw [IsServed, ← endpointsOf_ne_nil_iff, ← endpointsOf_ne_nil_iff]
  constructor
  · rintro ⟨r, hr⟩
    obtain ⟨service, hservice, -, -, source, hsource, destination, hdestination, -⟩ :=
      mem_rulesOf.1 hr
    exact ⟨List.ne_nil_of_mem hservice, List.ne_nil_of_mem hsource,
      List.ne_nil_of_mem hdestination⟩
  · rintro ⟨hservices, hsources, hdestinations⟩
    obtain ⟨service, hservice⟩ := List.exists_mem_of_ne_nil _ hservices
    obtain ⟨source, hsource⟩ := List.exists_mem_of_ne_nil _ hsources
    obtain ⟨destination, hdestination⟩ := List.exists_mem_of_ne_nil _ hdestinations
    have hpasses : (c.passesOf p.id service).1 ≠ [] := by
      have hlength := length_passProtocols (c := c) service
      rw [passesOf_eq_passProtocols (hcompiles.services service hservice)]
      refine List.length_pos_iff.1 ?_
      show 0 < (c.passProtocols service).length
      omega
    obtain ⟨protocol, hprotocol⟩ := List.exists_mem_of_ne_nil _ hpasses
    exact ⟨_, mem_rulesOf.2 ⟨service, hservice, protocol, hprotocol, source, hsource, destination,
      hdestination, rfl⟩⟩

/-- The names of filled lists are those of the references that need one. -/
theorem forall_lists_iff {P : String → Prop} :
    (∀ e ∈ (c.scriptOf policies).lists, P e.list) ↔
      ∀ r ∈ c.listReferences (activeReferences policies), P r.listName := by
  rw [lists_scriptOf]
  constructor
  · intro h r hr
    -- there is a first entry, which bears the name
    obtain ⟨item, hitem⟩ : ∃ item, item ∈ c.entriesOf r := by
      have hlong := (mem_listReferences.1 hr).2
      exact List.exists_mem_of_length_pos (by omega)
    exact h _ (List.mem_flatMap.2 ⟨r, hr, List.mem_map_of_mem hitem⟩)
  · intro h e he
    obtain ⟨r, hr, he⟩ := List.mem_flatMap.1 he
    obtain ⟨item, -, rfl⟩ := List.mem_map.1 he
    exact h r hr

/-- The chains of rules are those of the policies with rules. -/
theorem forall_chains_iff {P : String → Prop} (hall : ∀ p ∈ active policies, c.Compiles p) :
    (∀ r ∈ (c.scriptOf policies).rules, P r.chain) ↔
      ∀ p ∈ active policies, c.IsServed p → P p.chain := by
  have hchain : ∀ p r, r ∈ c.rulesOf p → r.chain = p.chain := by
    intro p r hr
    obtain ⟨_, _, _, _, _, _, _, _, rfl⟩ := mem_rulesOf.1 hr
    rfl
  rw [rules_scriptOf]
  constructor
  · intro h p hp hserved
    obtain ⟨r, hr⟩ := (exists_mem_rulesOf_iff (hall p hp)).2 hserved
    rw [← hchain p r hr]
    exact h r (List.mem_flatMap.2 ⟨p, hp, hr⟩)
  · intro h r hr
    obtain ⟨p, hp, hr⟩ := List.mem_flatMap.1 hr
    rw [hchain p r hr]
    exact h p hp ((exists_mem_rulesOf_iff (hall p hp)).1 ⟨r, hr⟩)

/-- A list for a side of a rule is that of a reference that needs one. -/
theorem exists_listReference_of_rule {r : Rule} {name : String}
    (hr : r ∈ (c.scriptOf policies).rules)
    (hname : r.source = .list name ∨ r.destination = .list name) :
    ∃ ref ∈ c.listReferences (activeReferences policies), ref.listName = name := by
  rw [rules_scriptOf] at hr
  obtain ⟨p, hp, hr⟩ := List.mem_flatMap.1 hr
  obtain ⟨_, _, _, _, source, hsource, destination, hdestination, rfl⟩ := mem_rulesOf.1 hr
  have hreference : ∃ ref ∈ p.references, 2 ≤ (c.entriesOf ref).length ∧ ref.listName = name := by
    rcases hname with hname | hname
    · obtain ⟨ref, href, hlong⟩ := exists_listReferences hsource hname
      exact ⟨ref, List.mem_append_left _ href, hlong⟩
    · obtain ⟨ref, href, hlong⟩ := exists_listReferences hdestination hname
      exact ⟨ref, List.mem_append_right _ href, hlong⟩
  obtain ⟨ref, href, hlong, hlist⟩ := hreference
  exact ⟨ref, mem_listReferences.2 ⟨List.mem_flatMap.2 ⟨p, hp, href⟩, hlong⟩, hlist⟩

/-- **No value of a script has a space in it exactly if** no reference that needs a list, and no
zone of a policy with rules, has one in its name. -/
theorem values_statements_iff {script : Script} (hc : c.IsTidy) (hsub : policies ⊆ c.policies)
    (hcompile : c.compile policies = .ok script) :
    (∀ s ∈ script.statements, ∀ f ∈ s.assignments, ' ' ∉ f.2.toList) ↔
      (∀ r ∈ c.listReferences (activeReferences policies),
        ' ' ∉ r.zone.toList ∧ ' ' ∉ r.name.toList) ∧
      ∀ p ∈ active policies, c.IsServed p → ' ' ∉ p.fromZone.toList ∧ ' ' ∉ p.toZone.toList := by
  have htidy : ∀ r ∈ script.rules, r.statement.IsTidy := fun r hr =>
    isTidy_of_compile hc hsub hcompile _ (Script.mem_statements.2 (.inr ⟨r, hr, rfl⟩))
  obtain ⟨hall, rfl⟩ := compile_eq_ok.1 hcompile
  simp only [Script.statements, List.forall_mem_append, List.forall_mem_map, ListEntry.values_iff,
    ← space_not_mem_joinNames]
  rw [forall_lists_iff (P := fun name => ' ' ∉ name.toList)]
  refine and_congr_right fun hlists => ?_
  -- the lists having no space in their names, only the chains are left
  refine Iff.trans ?_ (forall_chains_iff (P := fun name => ' ' ∉ name.toList) hall)
  constructor
  · intro hvalues r hr
    exact ((Rule.values_iff (htidy r hr)).1 (hvalues r hr)).1
  · intro hchains r hr
    refine (Rule.values_iff (htidy r hr)).2 ⟨hchains r hr, fun name hname => ?_⟩
    obtain ⟨ref, href, rfl⟩ := exists_listReference_of_rule hr hname
    exact hlists ref href

/-- **Which statements can be read back.** If a text is read over the predefined services and some
of its policies compile, the lines of the script that add something are its statements. The fields
of each are in order, and only values made of names can have spaces in them. A reader finds what was
written in a statement exactly if no value has, and in all statements exactly if no reference that
needs a list, and no zone of a policy with rules, has a space in its name. -/
theorem isTokenized_statements_iff {resolver : Option Resolver} {text : String} {c : Configuration}
    {policies : List Policy} {script : Script}
    (hread : ofText .predefined resolver text = .ok c)
    (hsub : policies ⊆ c.policies) (hcompile : c.compile policies = .ok script) :
    script.lines.filter (fun line => StartsWith "add " line) = script.statements.map (·.text) ∧
    (∀ s ∈ script.statements,
      (s.assignments.map (·.1)).Sublist fieldNames ∧
      (∀ f ∈ s.assignments, ' ' ∈ f.2.toList → f.1 ∈ nameFields) ∧
      (s.IsTokenized ↔ ∀ f ∈ s.assignments, ' ' ∉ f.2.toList)) ∧
    ((∀ s ∈ script.statements, s.IsTokenized) ↔
      (∀ r ∈ c.listReferences (activeReferences policies),
        ' ' ∉ r.zone.toList ∧ ' ' ∉ r.name.toList) ∧
      ∀ p ∈ active policies, c.IsServed p → ' ' ∉ p.fromZone.toList ∧ ' ' ∉ p.toZone.toList) := by
  have hc : c.IsTidy := isTidy_of_ofText hread
  have htidy := isTidy_of_compile hc hsub hcompile
  have htokenized : ∀ s ∈ script.statements,
      (s.IsTokenized ↔ ∀ f ∈ s.assignments, ' ' ∉ f.2.toList) := fun s hs =>
    Statement.isTokenized_iff fun f hf => ((htidy s hs).assignments f hf).name
  refine ⟨script.filter_lines, fun s hs => ⟨?_, fun f hf hspace => ?_, htokenized s hs⟩, ?_⟩
  · rcases Script.mem_statements.1 hs with ⟨e, -, rfl⟩ | ⟨r, -, rfl⟩
    · exact (List.nil_sublist _).cons_cons _ |>.cons_cons _
    · exact r.names_sublist
  · by_contra hname
    exact space_not_mem (((htidy s hs).assignments f hf).token hname) hspace
  · rw [← values_statements_iff hc hsub hcompile]
    exact forall₂_congr htokenized

/-- The name of a zone with a space in it makes two words of the chain. -/
theorem not_isTokenized_webZone : ∃ c script s,
    ofText .predefined none webZoneText = .ok c ∧
    c.compile c.policies = .ok script ∧ s ∈ script.statements ∧
    s.assignments = [("chain", "Web Zone__Untrust"), ("action", "accept")] ∧
    fieldsOf s.text = [("chain", "Web"), ("Zone__Untrust", ""), ("action", "accept")] ∧
    ¬ s.IsTokenized := by
  obtain ⟨c, hread, hpolicies⟩ := policies_webZone
  obtain ⟨script, hscript, hrules⟩ := compile_anyToAny c "Web Zone"
  rw [← hpolicies] at hscript
  refine ⟨c, script, _, hread, hscript,
    Script.mem_statements.2 (.inr ⟨_, by rw [hrules]; exact List.mem_singleton_self _, rfl⟩),
    by decide, by decide +kernel, fun h => ?_⟩
  exact h.values ("chain", "Web Zone__Untrust") (by decide) (by decide)

/-- The same policy for a zone without one. -/
def webText : String :=
  "set policy id 1 from \"Web\" to \"Untrust\" \"any\" \"any\" \"ANY\" permit\n"

/-- Without a space in the name of its zone, the statement is read field by field. -/
theorem isTokenized_statements_web : ∃ c script,
    ofText .predefined none webText = .ok c ∧
    c.compile c.policies = .ok script ∧ script.rules.length = 1 ∧
    ∀ s ∈ script.statements, s.IsTokenized := by
  obtain ⟨c, hread, hpolicies⟩ : ∃ c, ofText .predefined none webText = .ok c ∧
      c.policies = [passToAny ⟨"Web", "any"⟩ "ANY"] :=
    exists_ofText (by decide +kernel)
  obtain ⟨script, hscript, hrules⟩ := compile_anyToAny c "Web"
  rw [← hpolicies] at hscript
  refine ⟨c, script, hread, hscript, by rw [hrules]; rfl,
    (isTokenized_statements_iff hread (List.Subset.refl _) hscript).2.2.2 ⟨?_, ?_⟩⟩
  · intro r hr
    -- neither side of the policy comes to several entries
    obtain ⟨href, hlong⟩ := mem_listReferences.1 hr
    rw [hpolicies, activeReferences, active_passToAny, List.flatMap_singleton,
      references_passToAny, List.mem_pair] at href
    rcases href with rfl | rfl
    · rw [entriesOf_of_resolve _ _ (resolve_any _)] at hlong
      exact absurd hlong (by decide)
    · rw [entriesOf_of_resolve _ _ (resolve_any _)] at hlong
      exact absurd hlong (by decide)
  · intro p hp _
    rw [hpolicies, active_passToAny, List.mem_singleton] at hp
    rw [hp]
    decide

end Configuration

end ZoneFirewall
