import Mathlib.Data.List.SplitBy
import Mathlib.Data.List.TakeWhile
import ZoneFirewall.Proofs.CreationRoundTrip

/-!
# Integers as they are written

An integer is written with the usual digits and, if it is negative, with a hyphen in front. It is
read back from that unless it has too many digits, and no integer with too many digits is read from
any text.

* `trim_ofString`, `lowerCase_ofString`, `cutAt_ofChars`: texts without surrogates are trimmed,
  lower-cased and cut as characters are.
* `IsShortNumber`: the integers that do not have too many digits. `readInteger_toString`: **they are
  read back.** `isShortNumber_of_readInteger`: **no other integers are read.**
* `readInteger_nonneg`: a text without a hyphen gives no negative integer.
* `isDigit_or_hyphen_of_mem_toString`, `hyphen_not_mem_toString`: the characters of integers.
-/

namespace ZoneFirewall

open Text

/-! ## Texts without surrogates -/

namespace Text

/-- The small letter of one of the first 128 characters is the usual one. -/
theorem lowerChar_of_ascii {c : Char} (h : c.toNat < 0x80) : lowerChar c = [c.toLower] := by
  have hall : ∀ n : Fin 0x80, lowerChar (Char.ofNat n) = [(Char.ofNat n).toLower] := by
    decide +kernel
  have hc := hall ⟨c.toNat, h⟩
  rwa [Char.ofNat_toNat] at hc

/-- Among ASCII characters a letter is made small whatever is around it. -/
theorem lowerFrom_of_ascii {cs : List Char} (before : List Char) (h : ∀ c ∈ cs, c.toNat < 0x80) :
    lowerFrom before cs = cs.map Char.toLower := by
  induction cs generalizing before with
  | nil => rfl
  | cons c cs ih =>
      obtain ⟨hc, hcs⟩ := List.forall_mem_cons.1 h
      have hsigma : c ≠ 'Σ' := by
        rintro rfl
        exact absurd hc (by decide)
      rw [lowerFrom, if_neg hsigma, lowerChar_of_ascii hc, ih _ hcs]
      rfl

namespace WideText

/-- The text of the characters of a text is this text. -/
theorem ofChars_toList (s : String) : ofChars s.toList = ofString s := rfl

/-- A text without surrogates is trimmed as it is. -/
theorem trim_ofString (s : String) : (ofString s).trim = ofString (Text.trim s) := by
  have hblank : (fun n => isBlank (charOfPoint n)) ∘ Char.toNat = isBlank := by
    funext c
    rw [Function.comp_apply, charOfPoint_toNat]
  unfold WideText.trim ofString ofChars Text.trim trimChars dropBlanksEnd
  simp only [List.dropWhile_map, ← List.map_reverse, hblank, String.toList_ofList]

/-- Without surrogates there is one run, the whole text. -/
theorem lowerCase_ofString (s : String) :
    (ofString s).lowerCase = ofChars (lowerChars s.toList) := by
  have hnone : ∀ n ∈ (ofString s).points, isSurrogate n = false := by
    intro n hn
    obtain ⟨c, -, rfl⟩ := List.mem_map.1 hn
    exact isSurrogate_toNat c
  rcases List.eq_nil_or_concat s.toList with hnil | ⟨front, last, hs⟩
  · unfold WideText.lowerCase ofString
    rw [hnil]
    rfl
  · have hne : (ofString s).points ≠ [] := by
      unfold ofString ofChars
      rw [hs]
      simp
    have hchain :
        (ofString s).points.IsChain fun a b => (isSurrogate a == isSurrogate b) = true := by
      apply List.Pairwise.isChain
      apply List.pairwise_of_forall_mem_list
      intro a ha b hb
      rw [hnone a ha, hnone b hb]
      rfl
    have hrun : ((ofString s).points.any isSurrogate) = false :=
      List.any_eq_false.2 fun n hn => by simp [hnone n hn]
    unfold WideText.lowerCase
    rw [List.splitBy_of_isChain hne hchain]
    simp only [List.flatMap_cons, List.flatMap_nil, List.append_nil, hrun]
    unfold ofString ofChars
    simp [Function.comp_def, Char.ofNat_toNat]

/-- A character that replaces nothing is that of a code point. -/
theorem mem_points_of_mem_chars {t : WideText} {c : Char} (h : c ∈ t.chars)
    (hreplacement : c ≠ '\ufffd') (hnull : c.toNat ≠ 0) : c.toNat ∈ t.points := by
  obtain ⟨n, hn, rfl⟩ := List.mem_map.1 h
  unfold charOfPoint at hreplacement hnull ⊢
  split_ifs at hreplacement hnull ⊢
  · exact absurd rfl hreplacement
  · by_cases hvalid : n.isValidChar
    · have hsame : (Char.ofNat n).toNat = n := by
        rw [Char.ofNat, dif_pos hvalid]
        rfl
      rwa [hsame]
    · rw [Char.ofNat, dif_neg hvalid] at hnull
      exact absurd rfl hnull

/-- The code points of other characters are not that of the mark. -/
theorem forall_ne_mark {mark : Char} {cs : List Char} (h : mark ∉ cs) :
    ∀ n ∈ cs.map Char.toNat, decide (n ≠ mark.toNat) = true := by
  intro n hn
  obtain ⟨c, hc, rfl⟩ := List.mem_map.1 hn
  rw [decide_eq_true_iff]
  intro heq
  exact h (Char.toNat_inj.1 heq ▸ hc)

/-- A text is cut where the mark comes first. -/
theorem cutAt_ofChars {mark : Char} {cs : List Char} (h : mark ∉ cs) (ds : List Char) :
    (ofChars (cs ++ mark :: ds)).cutAt mark = (ofChars cs, ofChars ds) := by
  unfold cutAt ofChars
  rw [List.map_append, List.map_cons, List.takeWhile_append_of_pos (forall_ne_mark h),
    List.dropWhile_append_of_pos (forall_ne_mark h)]
  simp

/-- A text without the mark is not cut. -/
theorem cutAt_ofChars_of_not_mem {mark : Char} {cs : List Char} (h : mark ∉ cs) :
    (ofChars cs).cutAt mark = (ofChars cs, ofChars []) := by
  unfold cutAt ofChars
  rw [List.takeWhile_eq_self_iff.2 (forall_ne_mark h),
    List.dropWhile_eq_nil_iff.2 (forall_ne_mark h)]
  rfl

end WideText

end Text

/-! ## Integers as they are written -/

/-- An integer that is not too long to be read. -/
def IsShortNumber (n : Int) : Prop := (toString n.natAbs).length ≤ digitLimit

instance (n : Int) : Decidable (IsShortNumber n) := inferInstanceAs (Decidable (_ ≤ _))

/-- Digits behind a sign, if there is one, are read. -/
theorem readInteger_of_digits {text : WideText} {negative : Bool} {digits : List Char}
    (hfront : splitSign (text.chars.dropWhile isNumeralBlank) = (negative, digits))
    (hne : digits ≠ []) (hdigits : ∀ c ∈ digits, isDigit c) (hfits : digits.length ≤ digitLimit) :
    readInteger text = .ok (if negative then -(ofDigits (digits.filterMap digitValue?) : Int)
      else (ofDigits (digits.filterMap digitValue?) : Int)) := by
  obtain ⟨c, cs, rfl⟩ := List.exists_cons_of_ne_nil hne
  have hlength : ((c :: cs).filterMap digitValue?).length = (c :: cs).length :=
    List.filterMap_length_eq_length.2 hdigits
  unfold readInteger
  rw [hfront]
  simp only [digitRun_of_digits hdigits, hlength, List.head?_nil, List.all_nil, reduceCtorEq,
    if_false, if_true]
  rw [if_neg (by omega)]

/-- **An integer that is not too long is read back.** -/
theorem readInteger_toString {n : Int} (h : IsShortNumber n) :
    readInteger (.ofString (toString n)) = .ok n := by
  have hdigits : ∀ m : Nat, ∀ c ∈ (toString m).toList, isDigit c := fun m =>
    (isNumeral_toString m).2
  have hne : ∀ m : Nat, (toString m).toList ≠ [] := by
    intro m hnil
    rw [toList_toString] at hnil
    exact Nat.toDigits_ne_nil hnil
  have hvalue : ∀ m : Nat, ofDigits ((toString m).toList.filterMap digitValue?) = m :=
    numeralValue_toString
  cases n with
  | ofNat m =>
      have hfront : splitSign ((WideText.ofString (toString m)).chars.dropWhile isNumeralBlank)
          = (false, (toString m).toList) := by
        obtain ⟨c, cs, hcs⟩ := List.exists_cons_of_ne_nil (hne m)
        have hc : isDigit c := hdigits m c (by rw [hcs]; exact List.mem_cons_self)
        have hblank : isNumeralBlank c = false := by
          rw [isNumeralBlank, isBlank_eq_false_of_isDigit hc]
          rfl
        rw [chars_ofString, hcs, List.dropWhile_cons_of_neg (by simp [hblank]),
          splitSign_of_isDigit hc]
      have hread := readInteger_of_digits hfront (hne m) (hdigits m) h
      rw [hvalue] at hread
      exact hread
  | negSucc m =>
      have hchars : (WideText.ofString (toString (Int.negSucc m))).chars
          = '-' :: (toString (m + 1)).toList := by
        rw [chars_ofString]
        show ("-" ++ toString (m + 1)).toList = _
        rw [String.toList_append]
        rfl
      have hfront : splitSign
          ((WideText.ofString (toString (Int.negSucc m))).chars.dropWhile isNumeralBlank)
          = (true, (toString (m + 1)).toList) := by
        rw [hchars, List.dropWhile_cons_of_neg (by decide)]
        rfl
      have hread := readInteger_of_digits hfront (hne (m + 1)) (hdigits (m + 1)) h
      rw [hvalue] at hread
      exact hread

/-- A further digit counts ones, and the others ten times as much. -/
theorem ofDigits_append_singleton (digits : List Nat) (d : Nat) :
    ofDigits (digits ++ [d]) = 10 * ofDigits digits + d := by
  unfold ofDigits
  rw [List.foldl_append]
  rfl

/-- A number of so many digits is below the power of ten. -/
theorem ofDigits_lt {digits : List Nat} (h : ∀ d ∈ digits, d < 10) :
    ofDigits digits < 10 ^ digits.length := by
  induction digits using List.reverseRecOn with
  | nil => exact Nat.one_pos
  | append_singleton digits d ih =>
      rw [List.forall_mem_append, List.forall_mem_singleton] at h
      have hlt := ih h.1
      rw [ofDigits_append_singleton, List.length_append, List.length_singleton, pow_succ]
      omega

/-- The values of digits are below ten. -/
theorem forall_digitTail_lt (cs : List Char) : ∀ v ∈ (digitTail cs).1, v < 10 := by
  fun_induction digitTail cs with
  | case1 c rest v hv r ih =>
      rw [List.forall_mem_cons]
      exact ⟨digitValue?_lt hv, ih⟩
  | case3 c rest hc v hv r ih =>
      rw [List.forall_mem_cons]
      exact ⟨digitValue?_lt hv, ih⟩
  | _ => exact fun v hv => absurd hv List.not_mem_nil

/-- What an integer is read from: a sign, if there is one, and digits that are not too many. -/
theorem readInteger_eq_ok {text : WideText} {n : Int} (h : readInteger text = .ok n) :
    ∃ negative unsigned digits, splitSign (text.chars.dropWhile isNumeralBlank)
        = (negative, unsigned) ∧ (∀ d ∈ digits, d < 10) ∧ digits.length ≤ digitLimit ∧
      n = if negative then -(ofDigits digits : Int) else (ofDigits digits : Int) := by
  unfold readInteger at h
  rcases hsign : splitSign (text.chars.dropWhile isNumeralBlank) with ⟨negative, unsigned⟩
  rw [hsign] at h
  simp only at h
  rcases hrun : digitRun unsigned with _ | ⟨digits, rest⟩
  · rw [hrun] at h
    cases h
  · rw [hrun] at h
    simp only at h
    split_ifs at h with hmark hlong hblank hnegative
    all_goals cases h
    all_goals
      refine ⟨negative, unsigned, digits, rfl, ?_, by omega, by simp [hnegative]⟩
      cases unsigned with
      | nil => cases hrun
      | cons c cs =>
          obtain ⟨v, hv, hpair⟩ := Option.map_eq_some_iff.1 hrun
          cases hpair
          rw [List.forall_mem_cons]
          exact ⟨digitValue?_lt hv, forall_digitTail_lt cs⟩

/-- **Integers that are too long are not read.** -/
theorem isShortNumber_of_readInteger {text : WideText} {n : Int} (h : readInteger text = .ok n) :
    IsShortNumber n := by
  obtain ⟨negative, unsigned, digits, -, hdigits, hlength, rfl⟩ := readInteger_eq_ok h
  have habs : (if negative then -(ofDigits digits : Int) else (ofDigits digits : Int)).natAbs
      = ofDigits digits := by
    split_ifs
    · rw [Int.natAbs_neg, Int.natAbs_natCast]
    · rw [Int.natAbs_natCast]
  have hlt : ofDigits digits < 10 ^ digitLimit :=
    lt_of_lt_of_le (ofDigits_lt hdigits) (Nat.pow_le_pow_right (by decide) hlength)
  unfold IsShortNumber
  rw [habs]
  exact Nat.repr_length _ _ (by decide) hlt

/-- An integer without a hyphen is not negative. -/
theorem readInteger_nonneg {text : WideText} {n : Int} (h : readInteger text = .ok n)
    (hmark : '-'.toNat ∉ text.points) : 0 ≤ n := by
  obtain ⟨negative, unsigned, digits, hsign, -, -, rfl⟩ := readInteger_eq_ok h
  cases negative with
  | false => exact Int.natCast_nonneg _
  | true =>
      exfalso
      have hfront : '-' ∈ text.chars := by
        apply List.dropWhile_sublist isNumeralBlank |>.subset
        rw [splitSign.eq_def] at hsign
        split at hsign
        · rename_i heq
          rw [heq]
          exact List.mem_cons_self
        · cases hsign
        · cases hsign
      exact hmark (WideText.mem_points_of_mem_chars hfront (by decide) (by decide))

/-- The characters of an integer as it is written. -/
theorem isDigit_or_hyphen_of_mem_toString {n : Int} {c : Char} (h : c ∈ (toString n).toList) :
    c.isDigit ∨ c = '-' := by
  cases n with
  | ofNat m => exact .inl (isDigit_of_mem_toString (n := m) h)
  | negSucc m =>
      have hchars : (toString (Int.negSucc m)).toList = '-' :: (toString (m + 1)).toList := by
        show ("-" ++ toString (m + 1)).toList = _
        rw [String.toList_append]
        rfl
      rw [hchars, List.mem_cons] at h
      exact h.symm.imp_left isDigit_of_mem_toString

/-- An integer has a text. -/
theorem toString_int_ne_empty (n : Int) : toString n ≠ "" := by
  intro hempty
  cases n with
  | ofNat m => exact (isNumeral_toString m).1 hempty
  | negSucc m =>
      have hlength : ("-" ++ toString (m + 1)).length = 0 := by
        show (toString (Int.negSucc m)).length = 0
        rw [hempty]
        rfl
      rw [String.length_append] at hlength
      exact absurd hlength (by simp)

/-- An integer that is not negative is written without a hyphen. -/
theorem hyphen_not_mem_toString {n : Int} (h : 0 ≤ n) : '-' ∉ (toString n).toList := by
  cases n with
  | ofNat m =>
      intro hmem
      exact absurd (isDigit_of_mem_toString (n := m) hmem) (by decide)
  | negSucc m => exact absurd h (by simp)

end ZoneFirewall
