import ZoneFirewall.Proofs.Resolution

/-!
# What a resolution looks at

Resolving a name walks down through groups and looks up only the names that it meets. What an
address book says about other names, and about other zones, is of no account, not even for the chain
of a cycle; and names with a meaning of their own are not looked up at all.

* `Hierarchy.expand_congr`: **an expansion depends on the meaning of the names that it reaches** and
  on no other, whether it ends or meets a cycle.
* `AddressBook.Update`, `AddressBook.after`: the updates of a book, and the book after some of them.
  `get?_apply`: what one update leaves as it was. `get?_after`: so do many.
* `Address.parse_text`: an address is read as it is written. `inlineAddress?_text`: so it is inside
  a name.
* `resolve_of_unreached`: **updates of names that are not reached change no resolution**, and the
  names with a meaning of their own resolve to it in every book.
-/

namespace ZoneFirewall

open Text

/-! ## Expansions -/

namespace Hierarchy

variable {ν ε α : Type} [DecidableEq ν] {h h' : Hierarchy ν ε α} {merge : List α → List α}

/-- Names come to the same if the first does and the others do. -/
theorem expandAll_cons_congr {chain names : List ν} {name : ν}
    (hfirst : h'.expandFrom merge chain name = h.expandFrom merge chain name)
    (hrest : h'.expandAll merge chain names = h.expandAll merge chain names) :
    h'.expandAll merge chain (name :: names) = h.expandAll merge chain (name :: names) := by
  rw [expandAll, expandAll, hfirst, hrest]

/-- Names come to the same in two hierarchies that give the same meaning to all that is reached from
them. -/
theorem expandAll_congr (h : Hierarchy ν ε α) (chain names : List ν) :
    (∀ n ∈ names, ∀ m, Relation.ReflTransGen h.HasMember n m → h'.meaning m = h.meaning m) →
      h'.expandAll merge chain names = h.expandAll merge chain names := by
  induction chain, names using h.walk_induction with
  | nil chain =>
      intro _
      rw [expandAll_nil, expandAll_nil]
  | leaf chain name names result hm ih =>
      intro hsame
      obtain ⟨hname, hnames⟩ := List.forall_mem_cons.1 hsame
      have hm' : h'.meaning name = .leaf result := (hname name .refl).trans hm
      refine expandAll_cons_congr ?_ (ih hnames)
      cases result with
      | error e => rw [expandFrom_leaf_error hm, expandFrom_leaf_error hm']
      | ok items => rw [expandFrom_leaf hm, expandFrom_leaf hm']
  | met chain name names members hm hc ih =>
      intro hsame
      obtain ⟨hname, hnames⟩ := List.forall_mem_cons.1 hsame
      have hm' : h'.meaning name = .group members := (hname name .refl).trans hm
      refine expandAll_cons_congr ?_ (ih hnames)
      rw [expandFrom_open hm hc, expandFrom_open hm' hc]
  | enter chain name names members hm hc ihMembers ihNames =>
      intro hsame
      obtain ⟨hname, hnames⟩ := List.forall_mem_cons.1 hsame
      have hm' : h'.meaning name = .group members := (hname name .refl).trans hm
      -- what a member reaches is reached from the group
      have hmembers : ∀ n ∈ members, ∀ m, Relation.ReflTransGen h.HasMember n m →
          h'.meaning m = h.meaning m := by
        intro n hn m hreach
        exact hname m (.head ⟨members, hm, hn⟩ hreach)
      refine expandAll_cons_congr ?_ (ihNames hnames)
      rw [expandFrom_closed hm hc, expandFrom_closed hm' hc, ihMembers hmembers]

/-- **A name comes to the same in two hierarchies that give the same meaning to all that it
reaches**, whether it comes to items or to a failure. -/
theorem expand_congr {name : ν}
    (hsame : ∀ m, Relation.ReflTransGen h.HasMember name m → h'.meaning m = h.meaning m) :
    h'.expand merge name = h.expand merge name := by
  have hname : h'.meaning name = h.meaning name := hsame name .refl
  unfold expand
  rcases hm : h.meaning name with (e | items) | members
  · rw [hm] at hname
    rw [expandFrom_leaf_error hm, expandFrom_leaf_error hname]
  · rw [hm] at hname
    rw [expandFrom_leaf hm, expandFrom_leaf hname]
  · rw [hm] at hname
    rw [expandFrom_closed hm List.not_mem_nil, expandFrom_closed hname List.not_mem_nil]
    rw [expandAll_congr h _ members fun n hn m hreach => hsame m (.head ⟨members, hm, hn⟩ hreach)]

end Hierarchy

/-! ## Updates -/

namespace AddressBook

/-- An update of an address book. -/
inductive Update where
  /-- Gives a name an address. -/
  | add (zone name : String) (address : Interface) (description : String)
  /-- Adds a member to a group. -/
  | addMember (zone group member : String)

/-- What an update makes of a book. -/
def Update.apply (b : AddressBook) : Update → AddressBook
  | add zone name address description => b.add zone name address description
  | addMember zone group member => b.addMember zone group member

/-- The zone that an update is about. -/
def Update.zone : Update → String
  | add zone _ _ _ => zone
  | addMember zone _ _ => zone

/-- The name that an update is about. -/
def Update.name : Update → String
  | add _ name _ _ => name
  | addMember _ group _ => group

/-- A book after some updates. -/
def after (b : AddressBook) (us : List Update) : AddressBook := us.foldl Update.apply b

variable {b b' : AddressBook} {zone name : String}

/-- **One update** leaves every other name of every zone as it was. -/
theorem get?_apply {u : Update} (h : u.zone = zone → u.name ≠ name) :
    (u.apply b).get? zone name = b.get? zone name := by
  have hne : (u.zone, u.name) ≠ (zone, name) := by
    intro heq
    rw [Prod.mk.injEq] at heq
    exact h heq.1 heq.2
  cases u with
  | add z n address description =>
      have hne : (z, n) ≠ (zone, name) := hne
      show (b.add z n address description).get? zone name = _
      rw [get?_add, if_neg hne]
  | addMember z group member =>
      have hne : (z, group) ≠ (zone, name) := hne
      show (b.addMember z group member).get? zone name = _
      rw [get?_addMember, if_neg hne]

/-- **Any updates** leave the names that none of them is about as they were. -/
theorem get?_after {us : List Update} (h : ∀ u ∈ us, u.zone = zone → u.name ≠ name) :
    (b.after us).get? zone name = b.get? zone name := by
  induction us generalizing b with
  | nil => rfl
  | cons u us ih =>
      obtain ⟨hu, hus⟩ := List.forall_mem_cons.1 h
      show ((u.apply b).after us).get? zone name = _
      rw [ih hus, get?_apply hu]

/-- What a name stands for depends on its own entry only. -/
theorem meaning_congr (h : b'.get? zone name = b.get? zone name) :
    (b'.hierarchy zone).meaning name = (b.hierarchy zone).meaning name := by
  simp only [hierarchy, h]

/-- Books that agree on the names that a reference reaches resolve it alike. -/
theorem resolve_congr (h : ∀ m, Relation.ReflTransGen (b.HasMember zone) name m →
    b'.get? zone m = b.get? zone m) : b'.resolve zone name = b.resolve zone name := by
  have hexpand : (b'.hierarchy zone).expand Resolved.dedup name
      = (b.hierarchy zone).expand Resolved.dedup name := by
    apply Hierarchy.expand_congr
    intro m hreach
    rw [hasMember_hierarchy] at hreach
    exact meaning_congr (h m hreach)
  unfold resolve
  rw [hexpand]

end AddressBook

/-! ## Names that carry an address -/

/-- Four octets of an address put together again. -/
theorem Address.ofOctets_octets (x : Address) :
    Address.ofOctets (x.bits.extractLsb' 24 8) (x.bits.extractLsb' 16 8) (x.bits.extractLsb' 8 8)
      (x.bits.extractLsb' 0 8) = x := by
  unfold ofOctets
  congr 1
  ext i hi
  simp only [BitVec.getElem_append, BitVec.getElem_extractLsb']
  grind

/-- An octet is read as it is written. -/
theorem parseOctet_toString : ∀ o : BitVec 8, parseOctet (toString o.toNat).toList = .ok o := by
  decide +kernel

/-- An octet is written without any of the characters that stand around octets. -/
theorem ne_of_mem_octet {o : BitVec 8} {c : Char} (hc : c ∈ (toString o.toNat).toList) :
    c ≠ '.' ∧ c ≠ '/' ∧ c ≠ ')' := by
  have hall : ∀ o : BitVec 8,
      (toString o.toNat).toList.all fun c => c ≠ '.' ∧ c ≠ '/' ∧ c ≠ ')' := by
    decide +kernel
  exact of_decide_eq_true (List.all_eq_true.1 (hall o) c hc)

/-- An address is written as its octets with dots in between. -/
theorem Address.toList_text (x : Address) :
    x.text.toList = ['.'].intercalate (x.octets.map fun o => (toString o.toNat).toList) := by
  unfold text
  rw [String.toList_intercalate, List.map_map]
  rfl

/-- **An address is read as it is written.** -/
theorem Address.parse_text (x : Address) : Address.parse x.text.toList = .ok x := by
  have hdots : ∀ l ∈ x.octets.map fun o => (toString o.toNat).toList, '.' ∉ l := by
    intro l hl hdot
    obtain ⟨o, -, rfl⟩ := List.mem_map.1 hl
    exact (ne_of_mem_octet hdot).1 rfl
  have hsplit : x.text.toList.splitOn '.' = x.octets.map fun o => (toString o.toNat).toList := by
    rw [toList_text, List.splitOn_intercalate '.' hdots (by simp [octets])]
  have hne : x.text.toList ≠ [] := by
    intro hnil
    rw [hnil] at hsplit
    simp [octets] at hsplit
  unfold parse
  rw [if_neg hne, hsplit]
  simp only [octets, List.map_cons, List.map_nil, parseOctet_toString, ofOctets_octets]

/-- An address is written without slashes and brackets. -/
theorem Address.ne_of_mem_text {x : Address} {c : Char} (hc : c ∈ x.text.toList) :
    c ≠ '/' ∧ c ≠ ')' := by
  have hoctet (o : BitVec 8) (hc : c ∈ (toString o.toNat).toList) : c ≠ '/' ∧ c ≠ ')' :=
    (ne_of_mem_octet hc).2
  rw [toList_text] at hc
  simp only [octets, List.map_cons, List.map_nil, List.intercalate_cons_cons,
    List.intercalate_singleton, List.mem_append, List.mem_singleton] at hc
  rcases hc with (hc | rfl) | (hc | rfl) | (hc | rfl) | hc
  · exact hoctet _ hc
  · decide
  · exact hoctet _ hc
  · decide
  · exact hoctet _ hc
  · decide
  · exact hoctet _ hc

/-- A host is read from its address. -/
theorem Interface.parseHost_text (x : Address) : Interface.parseHost x.text = .ok (.host x) := by
  have hsplit : (x.text ++ "/32").toList.splitOn '/' = [x.text.toList, "32".toList] := by
    have hslash : ∀ l ∈ [x.text.toList, "32".toList], '/' ∉ l := by
      intro l hl
      rcases List.mem_pair.1 hl with rfl | rfl
      · exact fun hc => (Address.ne_of_mem_text hc).1 rfl
      · decide
    rw [← List.splitOn_intercalate '/' hslash (by simp)]
    simp [List.intercalate]
  have hlength : parseMask? "32".toList = some 32 := by decide
  unfold parseHost parse
  rw [hsplit]
  simp only [Address.parse_text, hlength]
  rfl

/-- **A name that carries an address carries the one that is written in it.** -/
theorem inlineAddress?_text {mark : String} (hmark : mark ∈ inlineMarks) (x : Address) :
    inlineAddress? (mark ++ x.text ++ ")") = some (.host x) := by
  have hfilter : x.text.toList.filter (fun c => !decide (c = ')')) = x.text.toList := by
    apply List.filter_eq_self.2
    intro c hc
    simp [(Address.ne_of_mem_text hc).2]
  have htext : inlineText? (mark ++ x.text ++ ")") = some x.text := by
    unfold inlineText?
    rcases List.mem_pair.1 hmark with rfl | rfl
    · simp [inlineMarks, List.isPrefixOf?, hfilter]
    · simp [inlineMarks, List.isPrefixOf?, hfilter]
  unfold inlineAddress?
  rw [htext, Option.bind_some, Interface.parseHost_text]
  rfl

/-- No mark begins like a spelling of `any`. -/
theorem isAnyName_of_mark {mark : String} (hmark : mark ∈ inlineMarks) (rest : String) :
    isAnyName (mark ++ rest) = false := by
  have hlower : mark.toList.head?.map Char.toLower ≠ some 'a' := by
    revert mark
    decide
  have hne : mark ≠ "" := by
    revert mark
    decide
  have hnil : mark.toList ≠ [] := fun hnil => hne (String.toList_eq_nil_iff.1 hnil)
  obtain ⟨first, cs, hcs⟩ := List.exists_cons_of_ne_nil hnil
  rw [hcs] at hlower
  unfold isAnyName
  rw [beq_eq_false_iff_ne, String.toList_append, hcs]
  intro heq
  exact hlower (congrArg some (List.cons.inj heq).1)

/-! ## Resolutions -/

namespace AddressBook

/-- **A resolution depends only on what is reached.** Updates that are about another zone, or about
a name that the reference does not reach in its zone before them, leave its entries as they were, or
the cycle that it meets, with its chain. A spelling of `any` is the network of all addresses, and a
name that carries an address is that host, in every zone of every book, whatever is stored under the
name. -/
theorem resolve_of_unreached (b : AddressBook) (zone name : String) :
    (∀ us : List Update,
      (∀ u ∈ us, u.zone = zone → ¬ Relation.ReflTransGen (b.HasMember zone) name u.name) →
        (b.after us).resolve zone name = b.resolve zone name) ∧
    (isAnyName name = true → b.resolve zone name = .ok [⟨name, ⟨.ofOctets 0 0 0 0, 0⟩⟩]) ∧
    (∀ x : Address, name = "MIP(" ++ x.text ++ ")" ∨ name = "VIP(" ++ x.text ++ ")" →
      b.resolve zone name = .ok [⟨name, ⟨x, 32⟩⟩]) := by
  refine ⟨?_, ?_, ?_⟩
  · intro us hus
    apply resolve_congr
    intro m hreach
    apply get?_after
    intro u hu hzone hname
    subst hname
    exact hus u hu hzone hreach
  · intro ha
    rw [resolve_of_isAnyName ha]
    rfl
  · intro x hx
    have hmark : ∃ mark ∈ inlineMarks, name = mark ++ x.text ++ ")" := by
      rcases hx with rfl | rfl
      · exact ⟨"MIP(", by decide, rfl⟩
      · exact ⟨"VIP(", by decide, rfl⟩
    obtain ⟨mark, hmark, rfl⟩ := hmark
    have hany : isAnyName (mark ++ x.text ++ ")") = false := by
      rw [String.append_assoc]
      exact isAnyName_of_mark hmark _
    rw [resolve_of_flattens (.inline hany (inlineAddress?_text hmark x) .nil)]
    rfl

/-- A group of one server. -/
def serverBook : AddressBook :=
  (empty.add "Trust" "web" (.host (.ofOctets 10 0 0 1)) "").addMember "Trust" "servers" "web"

/-- Updates around the group: its name in another zone, a cycle beside it, and a new zone. -/
def updatesElsewhere : List Update :=
  [.addMember "Untrust" "servers" "servers", .addMember "Trust" "printers" "printers",
    .add "DMZ" "web" .wildcard "moved"]

/-- The group reaches itself and its server only. -/
theorem reaches_serverBook {m : String}
    (h : Relation.ReflTransGen (serverBook.HasMember "Trust") "servers" m) :
    m = "servers" ∨ m = "web" := by
  induction h with
  | refl => exact .inl rfl
  | tail _ hmember ih =>
      obtain ⟨-, o, hg, hm⟩ := hmember
      rcases ih with rfl | rfl
      · obtain rfl : AddressObject.groupOf "web" = o := Option.some.inj hg
        exact .inr (List.mem_singleton.1 hm)
      · obtain rfl : AddressObject.plain (.host (.ofOctets 10 0 0 1)) "" = o := Option.some.inj hg
        cases hm

/-- The updates do not touch what the group reaches, and it comes to what it came to. -/
theorem resolve_servers_of_updatesElsewhere :
    (∀ u ∈ updatesElsewhere, u.zone = "Trust" →
      ¬ Relation.ReflTransGen (serverBook.HasMember "Trust") "servers" u.name) ∧
    (serverBook.after updatesElsewhere).resolve "Trust" "servers"
      = .ok [⟨"web", ⟨.ofOctets 10 0 0 1, 32⟩⟩] := by
  have hunreached : ∀ u ∈ updatesElsewhere, u.zone = "Trust" →
      ¬ Relation.ReflTransGen (serverBook.HasMember "Trust") "servers" u.name := by
    intro u hu hzone hreach
    have hname := reaches_serverBook hreach
    clear hreach
    revert u
    decide
  refine ⟨hunreached, ?_⟩
  rw [(resolve_of_unreached serverBook "Trust" "servers").1 updatesElsewhere hunreached]
  have hweb : serverBook.Flattens "Trust" ["web"] [⟨"web", .host (.ofOctets 10 0 0 1)⟩] :=
    .plain ⟨by decide, by decide⟩ rfl rfl rfl .nil
  rw [resolve_of_flattens (.group ⟨by decide, by decide⟩ rfl (by decide) hweb .nil)]
  rfl

end AddressBook

end ZoneFirewall
