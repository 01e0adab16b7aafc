import ZoneFirewall.Proofs.ServiceEntries
import ZoneFirewall.Proofs.WrittenIntegers
import ZoneFirewall.Service.Spec

/-!
# Short forms of services

A short form names a protocol and, behind a slash, the details: ports, or the type of an ICMP
message. The details are integers as they are written. They are held against no bound, and the two
ends of a range are not held against each other.

* `specProtocol`, `specDetails`: the two parts of a short form. `Definition.ReadsAs`,
  `parseSpec_eq_ok_iff`: what they stand for.
* `PortRange.IsReadable`: that the ports of a range can be read from a text.
* `Definition.IsDetailed`: the definitions that short forms with details stand for.
  `Definition.IsWellFormed`: those whose numbers lie within the bounds of their protocols.
* `Writing`: the ways to write a short form. `Writing.cutAt_text`: they are all cut alike.
* `parseSpec_text`, `parseSpec_type`: **ports and types that are written are read back.**
* `parseSpec_exact`: **which definitions short forms stand for**, and which short forms are refused.
  `not_isWellFormed_highPort`: not all of these definitions are well-formed.
-/

namespace ZoneFirewall

open Text

/-! ## The parts of a short form -/

/-- The protocol of a short form. -/
def specProtocol (spec : WideText) : WideText := (spec.trim.lowerCase.cutAt '/').1

/-- The details of a short form: what is behind its first slash. -/
def specDetails (spec : WideText) : WideText := (spec.trim.lowerCase.cutAt '/').2

/-- The ports are read from some text: neither has too many digits, and the first is not
negative. -/
structure PortRange.IsReadable (range : PortRange) : Prop where
  /-- The first port is not negative. -/
  nonneg : 0 ≤ range.first
  /-- The first port has few digits. -/
  first : IsShortNumber range.first
  /-- So has the last. -/
  last : IsShortNumber range.last

namespace Definition

/-- The definition that a protocol and details stand for. -/
inductive ReadsAs (protocol details : WideText) : Definition → Prop where
  /-- There are no details. -/
  | bare (hprotocol : protocol ≠ "") (hdetails : details = "") :
    ReadsAs protocol details { protocol }
  /-- The details are a type of ICMP messages. -/
  | icmp {type : Int} (hprotocol : protocol = "icmp") (hdetails : details ≠ "")
      (htype : readInteger details = .ok type) :
    ReadsAs protocol details { protocol, icmpType := some type }
  /-- The details are ports: those of a range up to a hyphen and behind it, or a single one. -/
  | ports {first last : Int} (hprotocol : protocol = "tcp" ∨ protocol = "udp")
      (hdetails : details ≠ "") (hfirst : readInteger (details.cutAt '-').1 = .ok first)
      (hlast : readInteger (if (details.cutAt '-').2 = "" then (details.cutAt '-').1
        else (details.cutAt '-').2) = .ok last) :
    ReadsAs protocol details { protocol, destination := ⟨first, last⟩ }

/-- A short form is accepted for what its parts stand for. -/
theorem parseSpec_eq_ok_iff {spec : WideText} {d : Definition} :
    parseSpec spec = .ok d ↔ ReadsAs (specProtocol spec) (specDetails spec) d := by
  unfold parseSpec specProtocol specDetails
  rcases spec.trim.lowerCase.cutAt '/' with ⟨protocol, details⟩
  rcases hcut : details.cutAt '-' with ⟨low, high⟩
  simp only [hcut]
  constructor
  · intro h
    by_cases hempty : protocol = ""
    · rw [if_pos hempty] at h
      cases h
    rw [if_neg hempty] at h
    by_cases hnone : details = ""
    · rw [if_pos hnone, if_pos hnone] at h
      split at h
      · rename_i hicmp
        cases h
        exact hicmp ▸ .bare hempty hnone
      · cases h
        exact .bare hempty hnone
    rw [if_neg hnone, if_neg hnone] at h
    by_cases hicmp : protocol = "icmp"
    · rw [if_pos hicmp] at h
      obtain ⟨type, htype, hd⟩ := bind_eq_ok.1 h
      cases hd
      exact hicmp ▸ .icmp hicmp hnone (mapError_eq_ok.1 htype)
    rw [if_neg hicmp] at h
    by_cases hother : protocol ≠ "tcp" ∧ protocol ≠ "udp"
    · rw [if_pos hother] at h
      cases h
    · rw [if_neg hother] at h
      obtain ⟨first, hfirst, h⟩ := bind_eq_ok.1 h
      obtain ⟨last, hlast, hd⟩ := bind_eq_ok.1 h
      cases hd
      rw [not_and_or, not_ne_iff, not_ne_iff] at hother
      refine .ports hother hnone ?_ ?_
      · rw [hcut]
        exact mapError_eq_ok.1 hfirst
      · rw [hcut]
        exact mapError_eq_ok.1 hlast
  · intro h
    cases h with
    | bare hprotocol hdetails =>
        rw [if_neg hprotocol, if_pos hdetails, if_pos hdetails]
        split
        · rename_i hicmp
          rw [hicmp]
        · rfl
    | icmp hprotocol hdetails htype =>
        subst hprotocol
        rw [if_neg (by decide), if_pos rfl, if_neg hdetails, specNumber, htype]
        rfl
    | ports hprotocol hdetails hfirst hlast =>
        have hempty : protocol ≠ "" := by rcases hprotocol with rfl | rfl <;> decide
        have hicmp : protocol ≠ "icmp" := by rcases hprotocol with rfl | rfl <;> decide
        rw [hcut] at hfirst hlast
        rw [if_neg hempty, if_neg hicmp, if_neg hdetails, if_neg (by tauto), specNumber, hfirst,
          specNumber, hlast]
        rfl

/-! ### Short forms with details -/

/-- The definitions that short forms with details stand for: ports of TCP or UDP that can be read,
or a type of ICMP messages. -/
inductive IsDetailed : Definition → Prop where
  /-- Destination ports. -/
  | ports {protocol : WideText} {range : PortRange}
      (hprotocol : protocol = "tcp" ∨ protocol = "udp") (hrange : range.IsReadable) :
    IsDetailed { protocol, destination := range }
  /-- A type of ICMP messages. -/
  | icmp {type : Int} (htype : IsShortNumber type) :
    IsDetailed { protocol := "icmp", icmpType := some type }

variable {protocol details : WideText} {d : Definition}

/-- Details stand for such definitions only. A hyphen in front of the first port is none of the
port's: the first hyphen of all is what the ends of the range are cut at. -/
theorem ReadsAs.isDetailed (h : ReadsAs protocol details d) (hdetails : details ≠ "") :
    d.IsDetailed := by
  cases h with
  | bare _ hnone => exact absurd hnone hdetails
  | icmp hprotocol _ htype =>
      subst hprotocol
      exact .icmp (isShortNumber_of_readInteger htype)
  | ports hprotocol _ hfirst hlast =>
      refine .ports hprotocol ⟨?_, isShortNumber_of_readInteger hfirst,
        isShortNumber_of_readInteger hlast⟩
      apply readInteger_nonneg hfirst
      intro hmark
      have hne := List.mem_takeWhile_imp hmark
      exact absurd rfl (of_decide_eq_true hne)

/-- Without details there are neither ports nor a type. -/
theorem ReadsAs.eq_bare (h : ReadsAs protocol details d) (hdetails : details = "") :
    d = { protocol } := by
  cases h with
  | bare _ _ => rfl
  | icmp _ hne _ => exact absurd hdetails hne
  | ports _ hne _ _ => exact absurd hdetails hne

/-- A text that an integer is read from. -/
def IsInteger (text : WideText) : Prop := ∃ n, readInteger text = .ok n

/-- The details are some that the protocol can have. -/
def FitsDetails (protocol details : WideText) : Prop :=
  protocol = "icmp" ∧ IsInteger details ∨
    (protocol = "tcp" ∨ protocol = "udp") ∧ IsInteger (details.cutAt '-').1 ∧
      ((details.cutAt '-').2 = "" ∨ IsInteger (details.cutAt '-').2)

/-- Details stand for a definition if they fit. -/
theorem exists_readsAs_iff (hdetails : details ≠ "") :
    (∃ d, ReadsAs protocol details d) ↔ FitsDetails protocol details := by
  constructor
  · rintro ⟨d, h⟩
    cases h with
    | bare _ hnone => exact absurd hnone hdetails
    | icmp hprotocol _ htype => exact .inl ⟨hprotocol, _, htype⟩
    | ports hprotocol _ hfirst hlast =>
        refine .inr ⟨hprotocol, ⟨_, hfirst⟩, ?_⟩
        by_cases hhigh : (details.cutAt '-').2 = ""
        · exact .inl hhigh
        · rw [if_neg hhigh] at hlast
          exact .inr ⟨_, hlast⟩
  · rintro (⟨hprotocol, type, htype⟩ | ⟨hprotocol, ⟨first, hfirst⟩, hhigh⟩)
    · exact ⟨_, .icmp hprotocol hdetails htype⟩
    · by_cases hnone : (details.cutAt '-').2 = ""
      · exact ⟨_, .ports hprotocol hdetails hfirst (by rw [if_pos hnone]; exact hfirst)⟩
      · obtain ⟨last, hlast⟩ := hhigh.resolve_left hnone
        exact ⟨_, .ports hprotocol hdetails hfirst (by rw [if_neg hnone]; exact hlast)⟩

/-- A protocol with ports, ICMP, or the number of a protocol. -/
def IsKnownProtocol (protocol : WideText) : Prop :=
  protocol = "tcp" ∨ protocol = "udp" ∨ protocol = "icmp" ∨ ∃ n, IsNumeral n ∧ protocol = n

/-- The numbers of a definition lie within the bounds of its protocol. -/
structure IsWellFormed (d : Definition) : Prop where
  /-- The protocol is known. -/
  protocol : IsKnownProtocol d.protocol
  /-- The first port is none before the least. -/
  first : 0 ≤ d.destination.first
  /-- The ports are in order. -/
  ordered : d.destination.first ≤ d.destination.last
  /-- The last port is none behind the greatest. -/
  last : d.destination.last ≤ 65535
  /-- The type of ICMP messages is one of a byte. -/
  icmpType : ∀ type, d.icmpType = some type → 0 ≤ type ∧ type ≤ 255

end Definition

/-! ## Short forms as they are written -/

/-- The small letter of a character is one only if the character is a letter. -/
theorem isLetter_of_isLower_toLower {c : Char} (h : c.toLower.isLower) :
    0x41 ≤ c.toNat ∧ c.toNat ≤ 0x7a := by
  unfold Char.toLower at h
  split at h
  · rename_i hc
    simp only [ge_iff_le, UInt32.le_iff_toNat_le] at hc
    have hlow : 65 ≤ c.toNat := hc.1
    have hhigh : c.toNat ≤ 90 := hc.2
    omega
  · have hrange : (c.val ≥ 97 && c.val ≤ 122) = true := h
    simp only [ge_iff_le, Bool.and_eq_true, decide_eq_true_eq, UInt32.le_iff_toNat_le] at hrange
    have hlow : 97 ≤ c.toNat := hrange.1
    have hhigh : c.toNat ≤ 122 := hrange.2
    omega

/-- Details as they are written: digits and hyphens. -/
def IsDetailText (details : String) : Prop :=
  details ≠ "" ∧ ∀ c ∈ details.toList, c.isDigit ∨ c = '-'

/-- Details are made of digits and of the marks between the hyphen and the slash. -/
theorem IsDetailText.toNat_le {details : String} (h : IsDetailText details) {c : Char}
    (hc : c ∈ details.toList) : 0x2d ≤ c.toNat ∧ c.toNat ≤ 0x39 := by
  rcases h.2 c hc with hdigit | rfl
  · simp only [Char.isDigit, Bool.and_eq_true, decide_eq_true_eq, ge_iff_le,
      UInt32.le_iff_toNat_le] at hdigit
    have hlow : 48 ≤ c.toNat := hdigit.1
    have hhigh : c.toNat ≤ 57 := hdigit.2
    omega
  · decide

/-- There are no blanks from the hyphen to the small letters. -/
theorem isBlank_eq_false_of_range {c : Char} (hlow : 0x2d ≤ c.toNat) (hhigh : c.toNat ≤ 0x7a) :
    isBlank c = false := by
  simp only [isBlank, Bool.or_eq_false_iff, Bool.and_eq_false_iff, decide_eq_false_iff_not,
    beq_eq_false_iff_ne]
  omega

/-- Blanks at both ends are trimmed off. -/
theorem trim_of_blanks {before after text : String} (hbefore : ∀ c ∈ before.toList, isBlank c)
    (hafter : ∀ c ∈ after.toList, isBlank c) {first last : Char}
    (hfirst : text.toList.head? = some first) (hlast : text.toList.getLast? = some last)
    (hfirstBlank : isBlank first = false) (hlastBlank : isBlank last = false) :
    Text.trim (before ++ text ++ after) = text := by
  have hfront : (text.toList ++ after.toList).dropWhile isBlank = text.toList ++ after.toList := by
    obtain ⟨rest, hrest⟩ : ∃ rest, text.toList = first :: rest := by
      rw [List.head?_eq_some_iff] at hfirst
      exact hfirst
    rw [hrest, List.cons_append, List.dropWhile_cons_of_neg (by simp [hfirstBlank])]
  have hend : dropBlanksEnd after.toList = [] := by
    unfold dropBlanksEnd
    rw [List.dropWhile_eq_nil_iff.2 fun c hc => hafter c (List.mem_reverse.1 hc), List.reverse_nil]
  unfold Text.trim trimChars
  rw [String.toList_append, String.toList_append, List.append_assoc,
    List.dropWhile_append_of_pos hbefore, hfront, dropBlanksEnd_append hlast hlastBlank, hend,
    List.append_nil, String.ofList_toList]

/-- A protocol with a word of small letters. -/
def IsWord (protocol : String) : Prop := protocol ≠ "" ∧ ∀ c ∈ protocol.toList, c.isLower

instance (protocol : String) : Decidable (IsWord protocol) :=
  decidable_of_iff (protocol ≠ "" ∧ protocol.toList.all Char.isLower)
    (and_congr_right fun _ => List.all_eq_true)

/-- The protocols with ports are words. -/
theorem isWord_of_hasPorts {protocol : String} (h : protocol = "tcp" ∨ protocol = "udp") :
    IsWord protocol := by
  rcases h with rfl | rfl
  · decide
  · decide

/-- A way to write short forms for a protocol: a letter case, and blanks around the whole. -/
structure Writing (protocol : String) where
  /-- The blanks in front. -/
  before : String
  /-- The protocol in some letter case. -/
  spelling : String
  /-- The blanks behind. -/
  after : String
  /-- There are blanks in front. -/
  isBlank_before : ∀ c ∈ before.toList, isBlank c
  /-- The protocol is spelled in some letter case. -/
  toLower_spelling : spelling.toLower = protocol
  /-- There are blanks behind. -/
  isBlank_after : ∀ c ∈ after.toList, isBlank c

namespace Writing

variable {protocol details : String}

/-- The short form with some details. -/
def text (w : Writing protocol) (details : String) : String :=
  w.before ++ (w.spelling ++ "/" ++ details) ++ w.after

/-- The usual way: in small letters, without blanks. -/
def plain (h : protocol.toLower = protocol) : Writing protocol where
  before := ""
  spelling := protocol
  after := ""
  isBlank_before := by simp
  toLower_spelling := h
  isBlank_after := by simp

/-- A short form in small letters without blanks is written as it is. -/
theorem text_plain (h : protocol.toLower = protocol) (details : String) :
    (plain h).text details = protocol ++ "/" ++ details := by
  rw [text, plain, String.empty_append, String.append_empty]

/-- A spelling of a protocol is this protocol in small letters. -/
theorem toList_spelling (w : Writing protocol) :
    w.spelling.toList.map Char.toLower = protocol.toList := by
  have hlower : (w.spelling.map Char.toLower).toList = protocol.toList :=
    congrArg String.toList w.toLower_spelling
  rw [String.toList_map] at hlower
  exact hlower

/-- The letters of the protocol, in whatever case. -/
theorem toNat_spelling (w : Writing protocol) (hword : IsWord protocol) {c : Char}
    (hc : c ∈ w.spelling.toList) : 0x41 ≤ c.toNat ∧ c.toNat ≤ 0x7a := by
  apply isLetter_of_isLower_toLower
  apply hword.2
  rw [← w.toList_spelling]
  exact List.mem_map_of_mem hc

/-- What is between the blanks is the spelling, a slash and the details. -/
theorem toList_core (w : Writing protocol) (details : String) :
    (w.spelling ++ "/" ++ details).toList = w.spelling.toList ++ '/' :: details.toList := by
  rw [String.toList_append, String.toList_append, List.append_assoc]
  rfl

/-- The blanks are trimmed off, and nothing else. -/
theorem trim_text (w : Writing protocol) (hword : IsWord protocol)
    (hdetails : IsDetailText details) :
    Text.trim (w.text details) = w.spelling ++ "/" ++ details := by
  obtain ⟨first, rest, hfirst⟩ : ∃ first rest, w.spelling.toList = first :: rest := by
    apply List.exists_cons_of_ne_nil
    intro hnil
    apply hword.1
    have hnone := w.toList_spelling
    rw [hnil, List.map_nil] at hnone
    exact String.toList_eq_nil_iff.1 hnone.symm
  obtain ⟨front, last, hlast⟩ : ∃ front last, details.toList = front ++ [last] := by
    rcases List.eq_nil_or_concat details.toList with hnil | ⟨front, last, hlast⟩
    · refine absurd ?_ hdetails.1
      rw [← String.ofList_toList (s := details), hnil]
    · exact ⟨front, last, by rw [hlast, List.concat_eq_append]⟩
  obtain ⟨hlow, hhigh⟩ := w.toNat_spelling hword (c := first)
    (by rw [hfirst]; exact List.mem_cons_self)
  obtain ⟨hlow', hhigh'⟩ := hdetails.toNat_le (c := last) (by rw [hlast]; simp)
  refine trim_of_blanks w.isBlank_before w.isBlank_after ?_ ?_
    (isBlank_eq_false_of_range (by omega) hhigh) (isBlank_eq_false_of_range hlow' (by omega))
  · rw [toList_core, hfirst]
    rfl
  · rw [toList_core, hlast, List.getLast?_append, List.getLast?_cons, List.getLast?_append]
    simp

/-- In small letters the protocol is itself, and details stay as they are. -/
theorem lowerChars_core (w : Writing protocol) (hword : IsWord protocol)
    (hdetails : IsDetailText details) :
    lowerChars (w.spelling ++ "/" ++ details).toList
      = protocol.toList ++ '/' :: details.toList := by
  have hascii : ∀ c ∈ (w.spelling ++ "/" ++ details).toList, c.toNat < 0x80 := by
    rw [toList_core, List.forall_mem_append, List.forall_mem_cons]
    refine ⟨fun c hc => ?_, by decide, fun c hc => ?_⟩
    · have hletter := w.toNat_spelling hword hc
      omega
    · have hdetail := hdetails.toNat_le hc
      omega
  have hsmall : details.toList.map Char.toLower = details.toList.map id := by
    apply List.map_congr_left
    intro c hc
    obtain ⟨-, hhigh⟩ := hdetails.toNat_le hc
    unfold Char.toLower
    rw [dif_neg]
    · rfl
    · simp only [ge_iff_le, UInt32.le_iff_toNat_le, not_and]
      intro hlow
      have hcapital : 65 ≤ c.toNat := hlow
      omega
  rw [lowerChars, lowerFrom_of_ascii [] hascii, toList_core, List.map_append, List.map_cons,
    w.toList_spelling, hsmall, List.map_id]
  rfl

/-- **A short form is cut into the protocol in small letters and the details**, whatever the letter
case of the protocol and the blanks around the whole. -/
theorem cutAt_text (w : Writing protocol) (hword : IsWord protocol)
    (hdetails : IsDetailText details) :
    (w.text details : WideText).trim.lowerCase.cutAt '/'
      = (.ofString protocol, .ofString details) := by
  have hslash : '/' ∉ protocol.toList := by
    intro hmem
    exact absurd (hword.2 _ hmem) (by decide)
  rw [WideText.trim_ofString, w.trim_text hword hdetails, WideText.lowerCase_ofString,
    w.lowerChars_core hword hdetails]
  exact WideText.cutAt_ofChars hslash details.toList

/-- The details are there as they are written. -/
theorem specDetails_text (w : Writing protocol) (hword : IsWord protocol)
    (hdetails : IsDetailText details) : specDetails (w.text details) ≠ "" := by
  rw [specDetails, w.cutAt_text hword hdetails]
  exact fun hempty => hdetails.1 (ofString_injective hempty)

end Writing

/-! ### Ports and types that are written -/

/-- A number may stand among details. -/
theorem isDetailText_toString (n : Int) : IsDetailText (toString n) :=
  ⟨toString_int_ne_empty n, fun _ => isDigit_or_hyphen_of_mem_toString⟩

namespace PortRange

variable {range : PortRange}

/-- A range of more than one port is written with a hyphen. -/
theorem toList_text (h : range.first ≠ range.last) :
    range.text.toList = (toString range.first).toList ++ '-' :: (toString range.last).toList := by
  rw [text, if_neg h, String.toList_append, String.toList_append, List.append_assoc]
  rfl

/-- A range may stand among details. -/
theorem isDetailText_text (range : PortRange) : IsDetailText range.text := by
  by_cases hsame : range.first = range.last
  · rw [text, if_pos hsame]
    exact isDetailText_toString range.first
  · refine ⟨?_, ?_⟩
    · intro hempty
      have hnil := toList_text hsame
      rw [hempty] at hnil
      simp at hnil
    · intro c hc
      rw [toList_text hsame, List.mem_append, List.mem_cons] at hc
      rcases hc with hc | rfl | hc
      · exact isDigit_or_hyphen_of_mem_toString hc
      · exact .inr rfl
      · exact isDigit_or_hyphen_of_mem_toString hc

end PortRange

namespace Definition

variable {protocol : String}

/-- The text of a range stands for it. -/
theorem readsAs_text {range : PortRange} (hprotocol : protocol = "tcp" ∨ protocol = "udp")
    (hrange : range.IsReadable) :
    ReadsAs protocol range.text { protocol, destination := range } := by
  have hwide : (protocol : WideText) = "tcp" ∨ (protocol : WideText) = "udp" :=
    hprotocol.imp (congrArg _) (congrArg _)
  have hdetails : (range.text : WideText) ≠ "" := by
    intro hempty
    exact range.isDetailText_text.1 (ofString_injective hempty)
  by_cases hsame : range.first = range.last
  · have hcut : (range.text : WideText).cutAt '-'
        = (.ofString (toString range.first), .ofString "") := by
      rw [PortRange.text, if_pos hsame]
      exact WideText.cutAt_ofChars_of_not_mem (hyphen_not_mem_toString hrange.nonneg)
    refine .ports hwide hdetails ?_ ?_
    · rw [hcut]
      exact readInteger_toString hrange.first
    · rw [hcut, if_pos rfl, ← hsame]
      exact readInteger_toString hrange.first
  · have hcut : (range.text : WideText).cutAt '-'
        = (.ofString (toString range.first), .ofString (toString range.last)) := by
      rw [← WideText.ofChars_toList, PortRange.toList_text hsame]
      exact WideText.cutAt_ofChars (hyphen_not_mem_toString hrange.nonneg) _
    have hne : ((toString range.last : String) : WideText) ≠ "" := by
      intro hempty
      exact toString_int_ne_empty range.last (ofString_injective hempty)
    refine .ports hwide hdetails ?_ ?_
    · rw [hcut]
      exact readInteger_toString hrange.first
    · rw [hcut, if_neg hne]
      exact readInteger_toString hrange.last

/-- **A range that is written is read back**, in whatever way it is written. -/
theorem parseSpec_text {range : PortRange} (w : Writing protocol)
    (hprotocol : protocol = "tcp" ∨ protocol = "udp") (hrange : range.IsReadable) :
    parseSpec (w.text range.text) = .ok { protocol, destination := range } := by
  rw [parseSpec_eq_ok_iff, specProtocol, specDetails,
    w.cutAt_text (isWord_of_hasPorts hprotocol) range.isDetailText_text]
  exact readsAs_text hprotocol hrange

/-- **So is a type of ICMP messages.** -/
theorem parseSpec_type {type : Int} (w : Writing "icmp") (htype : IsShortNumber type) :
    parseSpec (w.text (toString type)) = .ok { protocol := "icmp", icmpType := some type } := by
  rw [parseSpec_eq_ok_iff, specProtocol, specDetails,
    w.cutAt_text (by decide) (isDetailText_toString type)]
  refine .icmp rfl ?_ (readInteger_toString htype)
  intro hempty
  exact toString_int_ne_empty type (ofString_injective hempty)

/-- What short forms with details stand for can be written. -/
theorem IsDetailed.exists_spec {d : Definition} (h : d.IsDetailed) :
    ∃ spec, specDetails spec ≠ "" ∧ parseSpec spec = .ok d := by
  have hports : ∀ {protocol : String} {range : PortRange}, protocol = "tcp" ∨ protocol = "udp" →
      range.IsReadable → ∃ spec, specDetails spec ≠ "" ∧
        parseSpec spec = .ok { protocol, destination := range } := by
    intro protocol range hprotocol hrange
    have hlower : protocol.toLower = protocol := by
      rcases hprotocol with rfl | rfl <;> decide +kernel
    exact ⟨_, (Writing.plain hlower).specDetails_text (isWord_of_hasPorts hprotocol)
      range.isDetailText_text, parseSpec_text _ hprotocol hrange⟩
  cases h with
  | ports hprotocol hrange =>
      rcases hprotocol with rfl | rfl
      · exact hports (.inl rfl) hrange
      · exact hports (.inr rfl) hrange
  | @icmp type htype =>
      have hlower : "icmp".toLower = "icmp" := by decide +kernel
      exact ⟨_, (Writing.plain hlower).specDetails_text (by decide) (isDetailText_toString type),
        parseSpec_type _ htype⟩

/-- **What short forms stand for.** An accepted short form has no source ports and no code of ICMP
messages, and its first port is not negative. With details it stands for ports of TCP or UDP or for
a type of ICMP messages, and each pair of integers of which the first is not negative, and each
integer, is stood for: neither are ports and types held against the greatest ones, nor the last port
against the first. Without details there are no ports and no type. A short form without a protocol,
or with details that do not fit its protocol, is refused. -/
theorem parseSpec_exact :
    (∀ spec d, parseSpec spec = .ok d →
      d.source = .full ∧ d.icmpCode = none ∧ 0 ≤ d.destination.first ∧
      (specDetails spec ≠ "" → d.IsDetailed) ∧
      (specDetails spec = "" → d.destination = .full ∧ d.icmpType = none)) ∧
    (∀ d, d.IsDetailed → ∃ spec, specDetails spec ≠ "" ∧ parseSpec spec = .ok d) ∧
    (∀ spec, specDetails spec ≠ "" →
      ((∃ e, parseSpec spec = .error e) ↔ ¬ FitsDetails (specProtocol spec) (specDetails spec))) ∧
    ∀ spec, specDetails spec = "" →
      (IsKnownProtocol (specProtocol spec) →
        parseSpec spec = .ok { protocol := specProtocol spec }) ∧
      (specProtocol spec = "" → ∃ e, parseSpec spec = .error e) := by
  have hrefused : ∀ spec, (∃ e, parseSpec spec = .error e) ↔ ¬ ∃ d, parseSpec spec = .ok d := by
    intro spec
    rcases parseSpec spec with e | d
    · simp
    · simp
  refine ⟨fun spec d h => ?_, fun d h => h.exists_spec, fun spec hdetails => ?_,
    fun spec hdetails => ⟨fun hknown => ?_, fun hempty => ?_⟩⟩
  · have hreads := parseSpec_eq_ok_iff.1 h
    refine ⟨?_, ?_, ?_, hreads.isDetailed, fun hnone => ?_⟩
    · cases hreads <;> rfl
    · cases hreads <;> rfl
    · by_cases hdetails : specDetails spec = ""
      · rw [hreads.eq_bare hdetails]
        exact le_refl 0
      · cases hreads.isDetailed hdetails with
        | ports _ hrange => exact hrange.nonneg
        | icmp _ => exact le_refl 0
    · rw [hreads.eq_bare hnone]
      exact ⟨rfl, rfl⟩
  · rw [hrefused, ← exists_readsAs_iff hdetails]
    exact not_congr (exists_congr fun d => parseSpec_eq_ok_iff)
  · rw [parseSpec_eq_ok_iff]
    refine .bare ?_ hdetails
    rcases hknown with h | h | h | ⟨n, hn, h⟩
    · rw [h]
      decide
    · rw [h]
      decide
    · rw [h]
      decide
    · rw [h]
      exact fun hempty => hn.1 (ofString_injective hempty)
  · rw [hrefused]
    rintro ⟨d, h⟩
    cases parseSpec_eq_ok_iff.1 h with
    | bare hprotocol => exact hprotocol hempty
    | icmp hprotocol => exact absurd (hempty.symm.trans hprotocol) (by decide)
    | ports hprotocol =>
        rcases hprotocol with h | h
        · exact absurd (hempty.symm.trans h) (by decide)
        · exact absurd (hempty.symm.trans h) (by decide)

/-- The usual other port of web servers, and those behind it. -/
theorem isDetailed_webPorts :
    parseSpec "tcp/8000-8001" = .ok (.tcp 8000 8001) ∧ IsDetailed (.tcp 8000 8001) := by
  have hspec : parseSpec "tcp/8000-8001" = .ok (.tcp 8000 8001) := by decide +kernel
  have hdetails : specDetails "tcp/8000-8001" ≠ "" := by decide +kernel
  exact ⟨hspec, (parseSpec_exact.1 _ _ hspec).2.2.2.1 hdetails⟩

/-- A port behind the greatest is accepted, and so are a range in reverse, one whose last port is
negative, and types of ICMP messages that no byte can hold. -/
theorem not_isWellFormed_highPort :
    (parseSpec "tcp/70000" = .ok (.tcp 70000 70000) ∧ ¬ (tcp 70000 70000).IsWellFormed) ∧
    (parseSpec "udp/9-5" = .ok (.udp 9 5) ∧ ¬ (udp 9 5).IsWellFormed) ∧
    (parseSpec "tcp/5--3" = .ok (.tcp 5 (-3)) ∧ ¬ (tcp 5 (-3)).IsWellFormed) ∧
    ∀ type ∈ [-1, 300], parseSpec ↑("icmp/" ++ toString type)
        = .ok { protocol := "icmp", icmpType := some type } ∧
      ¬ IsWellFormed { protocol := "icmp", icmpType := some type } := by
  refine ⟨⟨by decide +kernel, fun h => absurd h.last (by decide)⟩,
    ⟨by decide +kernel, fun h => absurd h.ordered (by decide)⟩,
    ⟨by decide +kernel, fun h => absurd h.ordered (by decide)⟩, ?_⟩
  rw [List.forall_mem_cons, List.forall_mem_singleton]
  exact ⟨⟨by decide +kernel, fun h => absurd (h.icmpType (-1) rfl) (by decide)⟩,
    ⟨by decide +kernel, fun h => absurd (h.icmpType 300 rfl) (by decide)⟩⟩

end Definition

end ZoneFirewall
