import ZoneFirewall.Proofs.Classification

/-!
# How much of a line the creation of a policy takes

Every form but one ends where the line does. The creation of a policy does not ask for the end of
the line: it is read through its action, and the word for the log if that is next, and whatever
follows is dropped, be it the bandwidth and the schedule that a creation may have or anything else.

* `takes_scanPolicyCreate`: what is taken as a creation. `exists_run_of_opens`: **every line that
  begins with a creation through its action is read as one.**
* `exists_run_of_policyCreate_spells`: **a text of a creation is read as that creation.** The
  address to put in needs an argument, as the action may follow it without a space:
  `scanPolicyEnd_drop_eq_none_of_whole`, the end of the line cannot be read any later.
* `IsConsumedWhole`, `isConsumedWhole_iff`: **a line is taken only as a whole exactly if it is,
  should it begin with a creation, the text of one.** `not_isConsumedWhole_auth`: a line that is
  not.
-/

namespace ZoneFirewall

open Text Text.Scan

variable {h : PolicyHeader} {cs rest : List Char}

/-! ## The end of the line -/

/-- The port to put in. -/
def scanPort : Scan String := do
  expect " port "
  digits

/-- The word of an action. -/
def scanAction : Scan Action :=
  word "permit" .permit <|> word "deny" .deny <|> word "reject" .reject

/-- Whether matching traffic is logged. -/
def scanLog : Scan Bool := do
  let _ ← maybe (expect " ")
  let log ← maybe (expect "log")
  return log.isSome

/-- The reader of what ends a creation, its optional parts named. -/
theorem scanPolicyEnd_eq : scanPolicyEnd = (do
    let port ← maybe scanPort
    let _ ← maybe (expect " ")
    let action ← scanAction
    let log ← scanLog
    return (port, action, log)) := by
  simp only [scanPolicyEnd, scanLog, bind_assoc, pure_bind]
  rfl

/-- The word of an action is taken as it is. -/
theorem takes_scanAction : Takes scanAction fun action u => True ∧ u = action.word := by
  refine .orElse ((takes_word _ _).mono ?_) (.orElse ((takes_word _ _).mono ?_)
    ((takes_word _ _).mono ?_))
  all_goals
    rintro action u ⟨rfl, rfl⟩
    exact ⟨trivial, rfl⟩

/-- It is read whatever follows it. -/
theorem run_scanAction (action : Action) (rest : List Char) :
    scanAction.run (action.word.toList ++ rest) = some (action, rest) := by
  have hpermit : Begins (word "permit" Action.permit) "permit" := (begins_expect _).bind
  have hdeny : Begins (word "deny" Action.deny) "deny" := (begins_expect _).bind
  cases action with
  | permit => exact run_orElse_of_some (run_word _ _ rest)
  | deny =>
      rw [scanAction, run_orElse_of_none
        (hpermit.run_eq_none (not_prefix_append (by decide) (by decide) rest))]
      exact run_orElse_of_some (run_word _ _ rest)
  | reject =>
      rw [scanAction, run_orElse_of_none
        (hpermit.run_eq_none (not_prefix_append (by decide) (by decide) rest)),
        run_orElse_of_none (hdeny.run_eq_none (not_prefix_append (by decide) (by decide) rest))]
      exact run_word _ _ rest

/-- A line that begins with no such word has no action. -/
theorem run_scanAction_eq_none (h : ∀ action : Action, ¬ action.word.toList <+: cs) :
    scanAction.run cs = none := by
  have hnone (action : Action) : (word action.word action).run cs = none :=
    (begins_expect _).bind.run_eq_none (h action)
  exact (run_orElse_of_none (hnone .permit)).trans
    ((run_orElse_of_none (hnone .deny)).trans (hnone .reject))

/-- The word for the log is taken with the gap in front of it, if it is there. -/
theorem takes_scanLog : Takes scanLog fun log u => ∃ gap, IsGap gap ∧ u = gap ++ logWord log := by
  refine takes_gap.bind fun _ gap hgap => (takes_expect "log").maybe.bind fun log u hlog => .pure ?_
  rcases hlog with ⟨_, rfl, rfl⟩ | ⟨rfl, rfl⟩
  · exact ⟨gap, hgap, by simp [logWord]⟩
  · exact ⟨gap, hgap, by simp [logWord]⟩

/-- Something is always read there. -/
theorem exists_run_scanLog (cs : List Char) : ∃ x, scanLog.run cs = some x := by
  have hmaybe {r : Scan Unit} (cs : List Char) : ∃ o rest, (maybe r).run cs = some (o, rest) := by
    rcases hr : r.run cs with _ | ⟨a, rest⟩
    · exact ⟨none, cs, run_maybe_of_none hr⟩
    · exact ⟨some a, rest, run_maybe_of_some hr⟩
  obtain ⟨o, mid, hspace⟩ := hmaybe (r := expect " ") cs
  obtain ⟨log, rest, hlog⟩ := hmaybe (r := expect "log") mid
  refine ⟨(log.isSome, rest), ?_⟩
  rw [scanLog, run_bind hspace, run_bind hlog]
  rfl

/-- It is read whatever follows it. -/
theorem run_scanLog {gap : String} (hgap : IsGap gap) (rest : List Char) :
    scanLog.run (gap.toList ++ ("log".toList ++ rest)) = some (true, rest) := by
  obtain ⟨o, ho⟩ := run_gap hgap ("log".toList ++ rest) (by simp)
  rw [scanLog, run_bind ho, run_bind (run_maybe_of_some (run_expect _ _))]
  rfl

/-- No log is asked for where the word is not next, nor after a space. -/
theorem run_scanLog_of_not_begins (h : ¬ "log".toList <+: cs) (h' : ¬ " log".toList <+: cs) :
    ∃ rest, scanLog.run cs = some (false, rest) := by
  have hnone {cs : List Char} (h : ¬ "log".toList <+: cs) :
      (maybe (expect "log")).run cs = some (none, cs) :=
    run_maybe_of_none ((begins_expect _).run_eq_none h)
  by_cases hspace : " ".toList <+: cs
  · obtain ⟨rest, rfl⟩ := hspace
    have hrest : ¬ "log".toList <+: rest :=
      fun hlog => h' ((List.prefix_append_right_inj [' ']).2 hlog)
    refine ⟨rest, ?_⟩
    rw [scanLog, run_bind (run_maybe_of_some (run_expect _ _)), run_bind (hnone hrest)]
    rfl
  · refine ⟨cs, ?_⟩
    rw [scanLog, run_bind (run_maybe_of_none ((begins_expect _).run_eq_none hspace)),
      run_bind (hnone h)]
    rfl

/-- What ends a creation is taken as the port, the action and the word for the log. -/
theorem takes_scanPolicyEnd : Takes scanPolicyEnd fun x u => (∀ n ∈ x.1, IsNumeral n) ∧
    ∃ gap gap', IsGap gap ∧ IsGap gap' ∧
      u = optionally (" port " ++ ·) x.1 ++ gap ++ x.2.1.word ++ gap' ++ logWord x.2.2 := by
  have hport : Takes scanPort fun n u => IsNumeral n ∧ u = " port " ++ n :=
    .afterText <| takes_digits.mono fun _ _ hu => ⟨hu.1, congrArg _ hu.2⟩
  rw [scanPolicyEnd_eq]
  refine hport.optional.field fun port hport => takes_gap.bind fun _ gap hgap =>
    takes_scanAction.field fun action _ => takes_scanLog.bind fun log u hlog => .pure ?_
  obtain ⟨gap', hgap', rfl⟩ := hlog
  exact ⟨hport, gap, gap', hgap, hgap', by simp [String.append_assoc]⟩

/-- What the end of the line can begin with. -/
def endOpenings : List String :=
  [" port ", "permit", "deny", "reject", " permit", " deny", " reject"]

/-- It is not read from a line that begins with none of its beginnings. -/
theorem scanPolicyEnd_eq_none (h : ∀ s ∈ endOpenings, ¬ s.toList <+: cs) :
    scanPolicyEnd.run cs = none := by
  have hport : (maybe scanPort).run cs = some (none, cs) :=
    run_maybe_of_none ((begins_expect _).bind.run_eq_none (h " port " (by decide)))
  have hword (action : Action) : ¬ action.word.toList <+: cs := by
    cases action
    all_goals exact h _ (by decide)
  have hspaced (action : Action) : ¬ (" " ++ action.word).toList <+: cs := by
    cases action
    all_goals exact h _ (by decide)
  rw [scanPolicyEnd_eq, run_bind hport]
  by_cases hspace : " ".toList <+: cs
  · obtain ⟨rest, rfl⟩ := hspace
    rw [run_bind (run_maybe_of_some (run_expect _ _))]
    refine run_bind_of_none (run_scanAction_eq_none fun action haction => hspaced action ?_)
    rw [String.toList_append]
    exact (List.prefix_append_right_inj _).2 haction
  · rw [run_bind (run_maybe_of_none ((begins_expect _).run_eq_none hspace))]
    exact run_bind_of_none (run_scanAction_eq_none hword)

/-- What the action can begin with, together with the space in front of it. -/
def actionOpenings : List String :=
  ["permit", "deny", "reject", " permit", " deny", " reject"]

/-- An action with a gap in front of it is one of these beginnings. -/
theorem mem_actionOpenings {gap : String} (hgap : IsGap gap) (action : Action) :
    gap ++ action.word ∈ actionOpenings := by
  rcases hgap with rfl | rfl
  all_goals
    cases action
    all_goals decide

section openings

variable {s gap : String}

/-- A text that parts from all of them does not begin such an action. -/
theorem not_begins_action
    (hs : ∀ t ∈ actionOpenings, ¬ s.toList <+: t.toList ∧ ¬ t.toList <+: s.toList)
    (hgap : IsGap gap) (action : Action) (cs : List Char) :
    ¬ s.toList <+: gap.toList ++ (action.word.toList ++ cs) := by
  obtain ⟨hst, hts⟩ := hs _ (mem_actionOpenings hgap action)
  rw [← List.append_assoc, ← String.toList_append]
  exact not_prefix_append hst hts cs

/-- A text that parts from all that the end of a line can begin with is not in front of one. -/
theorem not_begins_end
    (hs : ∀ t ∈ endOpenings, ¬ s.toList <+: t.toList ∧ ¬ t.toList <+: s.toList)
    (port : Option String) (hgap : IsGap gap) (action : Action) (cs : List Char) :
    ¬ s.toList <+: (optionally (" port " ++ ·) port).toList
      ++ (gap.toList ++ (action.word.toList ++ cs)) := by
  rcases port with _ | n
  · exact not_begins_action (fun t ht => hs t (List.mem_cons_of_mem _ ht)) hgap action cs
  · obtain ⟨hst, hts⟩ := hs " port " List.mem_cons_self
    rw [optionally_some, String.toList_append, List.append_assoc]
    exact not_prefix_append hst hts _

end openings

/-- The port and the action are read as they are written, whatever follows. -/
theorem run_scanPolicyEnd {port : Option String} {gap : String} (action : Action) {log : Bool}
    (hport : ∀ n ∈ port, IsNumeral n) (hgap : IsGap gap)
    (hlog : scanLog.run cs = some (log, rest)) :
    scanPolicyEnd.run
      ((optionally (" port " ++ ·) port).toList ++ (gap.toList ++ (action.word.toList ++ cs)))
      = some ((port, action, log), rest) := by
  obtain ⟨o, ho⟩ := run_gap hgap (action.word.toList ++ cs) (by
    cases action <;> simp [Action.word])
  have hports : (maybe scanPort).run
      ((optionally (" port " ++ ·) port).toList ++ (gap.toList ++ (action.word.toList ++ cs)))
      = some (port, gap.toList ++ (action.word.toList ++ cs)) := by
    rcases port with _ | n
    · exact run_maybe_of_none ((begins_expect " port ").bind.run_eq_none
        (not_begins_action (by decide) hgap action cs))
    · refine run_maybe_of_some ?_
      rw [optionally_some, String.toList_append, List.append_assoc, scanPort,
        run_bind (run_expect _ _)]
      refine run_digits (hport n rfl) ?_
      rcases hgap with rfl | rfl <;> cases action <;> simp [Action.word] <;> decide
  rw [scanPolicyEnd_eq, run_bind hports, run_bind ho, run_bind (run_scanAction action cs),
    run_bind hlog]
  rfl

/-! ## The address to put in -/

section longest

variable {α : Type} {r : Scan α} {a : α} {n k : Nat}

/-- The text in front of what is read is some of the first `n` characters, and not empty. -/
theorem scanLongest_eq_some {front : String}
    (h : (scanLongest r n).run cs = some ((front, a), rest)) :
    ∃ k, 0 < k ∧ k ≤ n ∧ front = String.ofList (cs.take k) ∧
      r.run (cs.drop k) = some (a, rest) := by
  induction n with
  | zero => cases h
  | succ n ih =>
      simp only [scanLongest, StateT.run] at h
      split at h
      · rename_i value rest' hrun
        cases h
        exact ⟨n + 1, n.succ_pos, Nat.le_refl _, rfl, hrun⟩
      · obtain ⟨k, hpos, hle, hfront⟩ := ih h
        exact ⟨k, hpos, Nat.le_succ_of_le hle, hfront⟩

/-- The longest run is taken if the rest can be read after it. -/
theorem run_scanLongest_of_some (h : r.run (cs.drop (n + 1)) = some (a, rest)) :
    (scanLongest r (n + 1)).run cs = some ((String.ofList (cs.take (n + 1)), a), rest) := by
  simp only [scanLongest, StateT.run] at h ⊢
  rw [h]

/-- Otherwise a shorter one is tried. -/
theorem run_scanLongest_of_none (h : r.run (cs.drop (n + 1)) = none) :
    (scanLongest r (n + 1)).run cs = (scanLongest r n).run cs := by
  simp only [scanLongest, StateT.run] at h ⊢
  rw [h]

/-- It is the longest after which there is something to read. -/
theorem run_scanLongest (hpos : 0 < k) (hle : k ≤ n)
    (hlonger : ∀ m, k < m → m ≤ n → r.run (cs.drop m) = none)
    (hrun : r.run (cs.drop k) = some (a, rest)) :
    (scanLongest r n).run cs = some ((String.ofList (cs.take k), a), rest) := by
  induction n with
  | zero => omega
  | succ n ih =>
      rcases Nat.lt_or_ge n k with hlast | hmore
      · obtain rfl : k = n + 1 := by omega
        exact run_scanLongest_of_some hrun
      · rw [run_scanLongest_of_none (hlonger (n + 1) (by omega) (Nat.le_refl _))]
        exact ih hmore fun m hm hmn => hlonger m hm (by omega)

/-- There is something to read unless it is never there. -/
theorem exists_run_scanLongest (hpos : 0 < k) (hle : k ≤ n)
    (hrun : r.run (cs.drop k) = some (a, rest)) : ∃ x, (scanLongest r n).run cs = some x := by
  induction n with
  | zero => omega
  | succ n ih =>
      rcases hlast : r.run (cs.drop (n + 1)) with _ | ⟨b, left⟩
      · rw [run_scanLongest_of_none hlast]
        refine ih ?_
        rcases Nat.lt_or_ge n k with hlt | hge
        · obtain rfl : k = n + 1 := by omega
          rw [hlast] at hrun
          cases hrun
        · exact hge
      · exact ⟨_, run_scanLongest_of_some hlast⟩

/-- Some characters of a run of characters that satisfy `p`. -/
theorem take_of_le_takeWhile {p : Char → Bool} (hpos : 0 < k) (hle : k ≤ (cs.takeWhile p).length) :
    String.ofList (cs.take k) ≠ "" ∧ ∀ c ∈ (String.ofList (cs.take k)).toList, p c := by
  have hlength := (List.takeWhile_prefix (l := cs) p).length_le
  have htake : cs.take k <+: cs.takeWhile p :=
    List.prefix_of_prefix_length_le (List.take_prefix _ _) (List.takeWhile_prefix _) (by
      rw [List.length_take]
      omega)
  refine ⟨fun hempty => ?_, fun c hc => ?_⟩
  · have hnil := congrArg List.length (String.ofList_eq_empty_iff.1 hempty)
    rw [List.length_take, List.length_nil] at hnil
    omega
  · rw [String.toList_ofList] at hc
    exact List.all_eq_true.1 List.all_takeWhile c (htake.subset hc)

end longest

/-- What follows the words for the address replacement: the address and the port to put in, the
action, and whether it logs. -/
theorem takes_scanNatAddress : Takes scanNatAddress fun x u =>
    (∀ a ∈ x.1, a ≠ "" ∧ ∀ c ∈ a.toList, c ≠ ' ') ∧ (∀ n ∈ x.2.1, IsNumeral n) ∧
      ∃ gap gap', IsGap gap ∧ IsGap gap' ∧ u = optionally (" ip " ++ ·) x.1
        ++ optionally (" port " ++ ·) x.2.1 ++ gap ++ x.2.2.1.word ++ gap' ++ logWord x.2.2.2 := by
  intro cs x rest hrun
  simp only [scanNatAddress, StateT.run] at hrun
  split at hrun
  · rename_i mid hip
    obtain ⟨text, rfl, rfl⟩ := takes_expect " ip " _ _ _ hip
    obtain ⟨⟨⟨front, tail⟩, left⟩, hlongest, heq⟩ := Option.map_eq_some_iff.1 hrun
    cases heq
    obtain ⟨k, hpos, hle, rfl, hend⟩ := scanLongest_eq_some hlongest
    obtain ⟨u, ⟨hport, gap, gap', hgap, hgap', rfl⟩, hu⟩ := takes_scanPolicyEnd _ _ _ hend
    refine ⟨_, ⟨?_, hport, gap, gap', hgap, hgap', rfl⟩, ?_⟩
    · intro a ha
      cases ha
      obtain ⟨hne, hall⟩ := take_of_le_takeWhile hpos hle
      exact ⟨hne, fun c hc => of_decide_eq_true (hall c hc)⟩
    · simp only [optionally_some, String.toList_append, String.toList_ofList, List.append_assoc]
        at hu ⊢
      rw [← hu, List.take_append_drop]
  · obtain ⟨⟨tail, left⟩, hend, heq⟩ := Option.map_eq_some_iff.1 hrun
    cases heq
    obtain ⟨u, ⟨hport, gap, gap', hgap, hgap', rfl⟩, rfl⟩ := takes_scanPolicyEnd _ _ _ hend
    exact ⟨_, ⟨by simp, hport, gap, gap', hgap, hgap', rfl⟩, by simp⟩

/-! ## The creation of a policy -/

/-- The name of a policy. -/
def scanPolicyName : Scan String := do
  expect "name "
  let name ← quoted
  expect " "
  return name

/-- The words for an address replacement. -/
def scanNatMode : Scan NatMode := word "nat src" .source <|> word "nat dst" .destination

/-- The reader of a creation, its optional parts named. -/
theorem scanPolicyCreate_eq : scanPolicyCreate = (do
    let id ← scanPolicyId
    expect " "
    let name ← maybe scanPolicyName
    expect "from "
    let fromZone ← quoted
    expect " to "
    let toZone ← quoted
    let _ ← spanSome (· = ' ')
    let source ← quoted
    expect " "
    let destination ← quoted
    expect " "
    let service ← quoted
    expect " "
    let nat ← maybe scanNatMode
    let (natAddress, natPort, action, log) ← scanNatAddress
    return .policyCreate
      { id, name, fromZone, toZone, source, destination, service, nat := nat.getD .none, natAddress,
        natPort, action, log }) := rfl

/-- The name of a policy is taken with its word and the space behind it. -/
theorem takes_scanPolicyName : Takes scanPolicyName fun n u =>
    IsName n ∧ u = "name " ++ inQuotes n ++ " " :=
  .afterText <| takes_quoted.field fun _ hn => .afterText <|
    .pure ⟨hn, by simp [String.append_assoc]⟩

/-- The words for the address replacement are taken as they are. -/
theorem takes_scanNatMode :
    Takes (maybe scanNatMode) fun mode u => u = (mode.getD .none).words := by
  have hmode : Takes scanNatMode fun mode u => u = mode.words := by
    refine .orElse ((takes_word _ _).mono ?_) ((takes_word _ _).mono ?_)
    all_goals
      rintro mode u ⟨rfl, rfl⟩
      rfl
  refine hmode.maybe.mono fun mode u hu => ?_
  rcases hu with ⟨mode, rfl, rfl⟩ | ⟨rfl, rfl⟩
  · rfl
  · rfl

/-- **What is taken as the creation of a policy** is the line up to the action, and the word for the
log if it is next. -/
theorem takes_scanPolicyCreate : Takes scanPolicyCreate fun d u => ∃ h front gap,
    d = .policyCreate h ∧ h.Opens front ∧ IsGap gap ∧ u = front ++ gap ++ logWord h.log := by
  rw [scanPolicyCreate_eq]
  refine takes_scanPolicyId.field fun id hid => .afterText <| takes_scanPolicyName.optional.field
    fun name hname => .afterText <| takes_quoted.field fun fromZone hfrom => .afterText <|
    takes_quoted.field fun toZone hto => (takes_spanSome _).field fun spaces hspaces =>
    takes_quoted.field fun source hsource => .afterText <| takes_quoted.field
    fun destination hdestination => .afterText <| takes_quoted.field fun service hservice =>
    .afterText <| takes_scanNatMode.bind fun nat words hnat => takes_scanNatAddress.bind ?_
  rintro ⟨natAddress, natPort, action, log⟩ u ⟨haddress, hport, gap, gap', hgap, hgap', rfl⟩
  have hspaces' : IsSpaces spaces := ⟨hspaces.1, by simpa using hspaces.2⟩
  subst hnat
  refine .pure ⟨⟨id, name, fromZone, toZone, source, destination, service, nat.getD .none,
    natAddress, natPort, action, log⟩, _, gap', rfl, ⟨?_, spaces, gap, hspaces', hgap, rfl⟩,
    hgap', ?_⟩
  · exact ⟨hid, hname, hfrom, hto, hsource, hdestination, hservice, haddress, hport⟩
  · unfold PolicyHeader.lead
    simp only [String.append_assoc, String.append_empty]

/-- The words for an address replacement are read where no others follow. -/
theorem run_scanNatMode (mode : NatMode) (h : ¬ "nat ".toList <+: cs) :
    ∃ o, o.getD .none = mode ∧
      (maybe scanNatMode).run (mode.words.toList ++ cs) = some (o, cs) := by
  have hsource : Begins (word "nat src" NatMode.source) "nat src" := (begins_expect _).bind
  have hdestination : Begins (word "nat dst" NatMode.destination) "nat dst" :=
    (begins_expect _).bind
  cases mode with
  | none =>
      have hnat {s : String} (hs : "nat ".toList <+: s.toList) : ¬ s.toList <+: cs :=
        fun hcs => h (hs.trans hcs)
      refine ⟨none, rfl, run_maybe_of_none ?_⟩
      exact (run_orElse_of_none (hsource.run_eq_none (hnat (by decide)))).trans
        (hdestination.run_eq_none (hnat (by decide)))
  | source =>
      exact ⟨some .source, rfl, run_maybe_of_some (run_orElse_of_some (run_word _ _ cs))⟩
  | destination =>
      refine ⟨some .destination, rfl, run_maybe_of_some ?_⟩
      rw [scanNatMode, run_orElse_of_none
        (hsource.run_eq_none (not_prefix_append (by decide) (by decide) cs))]
      exact run_word _ _ cs

/-- The name is read if it is there, and left out if it is not. -/
theorem run_scanPolicyName {name : Option String} (hname : ∀ n ∈ name, IsName n) :
    (maybe scanPolicyName).run
      ((optionally (fun n => "name " ++ inQuotes n ++ " ") name).toList ++ ("from ".toList ++ cs))
      = some (name, "from ".toList ++ cs) := by
  rcases name with _ | n
  · exact run_maybe_of_none ((begins_expect _).bind.run_eq_none
      (not_prefix_append (by decide) (by decide) cs))
  · refine run_maybe_of_some ?_
    simp only [optionally_some, String.toList_append, List.append_assoc]
    rw [scanPolicyName, run_bind (run_expect _ _), run_bind (run_quoted (hname n rfl) _),
      run_bind (run_expect _ _)]
    rfl

/-- What is read as the creation of a policy, given what the words for the address replacement are
followed by. -/
theorem run_scanPolicyCreate
    {spaces : String} {natAddress natPort : Option String} {action : Action}
    {log : Bool} (hw : h.IsWritten) (hspaces : IsSpaces spaces) (hnat : ¬ "nat ".toList <+: cs)
    (hrun : scanNatAddress.run cs = some ((natAddress, natPort, action, log), rest)) :
    scanPolicyCreate.run ((h.lead spaces).toList ++ cs)
      = some (.policyCreate { h with natAddress, natPort, action, log }, rest) := by
  obtain ⟨o, hmode, ho⟩ := run_scanNatMode h.nat hnat
  unfold PolicyHeader.lead
  simp only [String.toList_append, List.append_assoc]
  rw [scanPolicyCreate_eq, run_bind (run_scanPolicyId hw.id (by simp; decide)),
    run_bind (run_expect _ _), run_bind (run_scanPolicyName hw.name), run_bind (run_expect _ _),
    run_bind (run_quoted hw.fromZone _), run_bind (run_expect _ _),
    run_bind (run_quoted hw.toZone _),
    run_bind (run_spanSome hspaces.1 (by simpa using hspaces.2) (by simp [inQuotes])),
    run_bind (run_quoted hw.source _), run_bind (run_expect _ _),
    run_bind (run_quoted hw.destination _), run_bind (run_expect _ _),
    run_bind (run_quoted hw.service _), run_bind (run_expect _ _), run_bind ho, run_bind hrun,
    hmode]
  rfl

/-! ## The address before the action -/

/-- No address is read where the port or the action stands at once. -/
theorem run_scanNatAddress_none {port : Option String} {gap : String} {action : Action}
    {log : Bool} (hport : ∀ n ∈ port, IsNumeral n) (hgap : IsGap gap)
    (hlog : scanLog.run cs = some (log, rest)) :
    scanNatAddress.run
      ((optionally (" port " ++ ·) port).toList ++ (gap.toList ++ (action.word.toList ++ cs)))
      = some ((none, port, action, log), rest) := by
  have hend := run_scanPolicyEnd action hport hgap hlog
  have hip := (begins_expect " ip ").run_eq_none (not_begins_end (by decide) port hgap action cs)
  simp only [scanNatAddress, StateT.run] at hip hend ⊢
  rw [hip]
  simp only [hend, Option.map_some]

section address

variable {a : String} {mid : List Char} {x : Option String × Action × Bool}

/-- An address is looked for among the beginnings of what stands up to the next space. -/
theorem scanNatAddress_append (a : String) (mid : List Char) :
    scanNatAddress.run ((" ip " ++ a).toList ++ mid)
      = ((scanLongest scanPolicyEnd ((a.toList ++ mid).takeWhile (· ≠ ' ')).length).run
          (a.toList ++ mid)).map fun ((address, tail), left) => ((some address, tail), left) := by
  have hip := run_expect " ip " (a.toList ++ mid)
  rw [String.toList_append, List.append_assoc]
  simp only [scanNatAddress, StateT.run] at hip ⊢
  rw [hip]

/-- An address without spaces is all of the run in front of which it stands, and what follows of the
run. -/
theorem takeWhile_address (ha : ∀ c ∈ a.toList, c ≠ ' ') :
    ((a.toList ++ mid).takeWhile (· ≠ ' ')).length
      = a.toList.length + (mid.takeWhile (· ≠ ' ')).length := by
  rw [List.takeWhile_append_of_pos (by simpa using ha), List.length_append]

/-- The address is all that stands before the end of the line if no end can be read later. -/
theorem run_scanNatAddress_some (hne : a ≠ "") (ha : ∀ c ∈ a.toList, c ≠ ' ')
    (hend : scanPolicyEnd.run mid = some (x, rest))
    (hlater : ∀ j, 0 < j → j ≤ (mid.takeWhile (· ≠ ' ')).length →
      scanPolicyEnd.run (mid.drop j) = none) :
    scanNatAddress.run ((" ip " ++ a).toList ++ mid) = some ((some a, x), rest) := by
  have hpos : 0 < a.toList.length :=
    List.length_pos_iff.2 fun hnil => hne (String.toList_eq_nil_iff.1 hnil)
  have hlongest : (scanLongest scanPolicyEnd ((a.toList ++ mid).takeWhile (· ≠ ' ')).length).run
      (a.toList ++ mid)
      = some ((String.ofList ((a.toList ++ mid).take a.toList.length), x), rest) := by
    rw [takeWhile_address ha]
    refine run_scanLongest hpos (Nat.le_add_right _ _) (fun m hm hmn => ?_) ?_
    · rw [List.drop_append, List.drop_eq_nil_of_le (by omega), List.nil_append]
      exact hlater _ (by omega) (by omega)
    · rw [List.drop_left]
      exact hend
  rw [scanNatAddress_append, hlongest, List.take_left, String.ofList_toList]
  rfl

/-- Some address is read wherever one may end. -/
theorem exists_run_scanNatAddress (hne : a ≠ "") (ha : ∀ c ∈ a.toList, c ≠ ' ')
    (hend : scanPolicyEnd.run mid = some (x, rest)) :
    ∃ y, scanNatAddress.run ((" ip " ++ a).toList ++ mid) = some y := by
  have hpos : 0 < a.toList.length :=
    List.length_pos_iff.2 fun hnil => hne (String.toList_eq_nil_iff.1 hnil)
  have hdrop : scanPolicyEnd.run ((a.toList ++ mid).drop a.toList.length) = some (x, rest) := by
    rw [List.drop_left]
    exact hend
  have hle : a.toList.length ≤ ((a.toList ++ mid).takeWhile (· ≠ ' ')).length := by
    rw [takeWhile_address ha]
    exact Nat.le_add_right _ _
  obtain ⟨y, hy⟩ := exists_run_scanLongest hpos hle hdrop
  rw [scanNatAddress_append, hy]
  exact ⟨_, rfl⟩

end address

/-! ## What may follow the action -/

/-- What is left after the action and the log, in a line with nothing else in it. -/
def IsLeftOver (cs : List Char) : Prop :=
  cs ∈ [[], ['\n'], [' '], [' ', '\n']] ∨
    ∃ t ∈ [" traffic", " schedule ", "  traffic", "  schedule "], t.toList <+: cs

/-- What a creation may end in is left over. -/
theorem isLeftOver {gap traffic schedule : String} (hgap : IsGap gap) (htraffic : IsTraffic traffic)
    (hschedule : IsSchedule schedule) (hrest : IsEnd rest) :
    IsLeftOver (gap.toList ++ (traffic.toList ++ (schedule.toList ++ rest))) := by
  rcases htraffic with rfl | ⟨settings, -, -, rfl⟩
  · rcases hschedule with rfl | ⟨name, -, rfl⟩
    · left
      rcases hgap with rfl | rfl <;> rcases hrest with rfl | rfl <;> decide
    · right
      rcases hgap with rfl | rfl
      · exact ⟨" schedule ", by decide, by simp⟩
      · exact ⟨"  schedule ", by decide, by simp⟩
  · right
    rcases hgap with rfl | rfl
    · exact ⟨" traffic", by decide, by simp⟩
    · exact ⟨"  traffic", by decide, by simp⟩

/-- Neither a log nor the end of a line is in front of what is left over. -/
theorem IsLeftOver.not_begins (h : IsLeftOver cs) :
    ∀ s ∈ "log" :: " log" :: endOpenings, ¬ s.toList <+: cs := by
  rcases h with h | ⟨t, ht, rest, rfl⟩
  · have hall : ∀ u ∈ [[], ['\n'], [' '], [' ', '\n']], ∀ s ∈ "log" :: " log" :: endOpenings,
        ¬ s.toList <+: u := by decide
    exact hall cs h
  · have hall : ∀ t ∈ [" traffic", " schedule ", "  traffic", "  schedule "],
        ∀ s ∈ "log" :: " log" :: endOpenings,
          ¬ s.toList <+: t.toList ∧ ¬ t.toList <+: s.toList := by
      decide
    exact fun s hs => not_prefix_append (hall t ht s hs).1 (hall t ht s hs).2 rest

/-- What is left over begins with a space, or is the end of the line. -/
theorem IsLeftOver.space_or_end (h : IsLeftOver cs) : Stops (· ≠ ' ') cs ∨ cs = ['\n'] := by
  rcases h with h | ⟨t, ht, rest, rfl⟩
  · simp only [List.mem_cons, List.not_mem_nil, or_false] at h
    rcases h with rfl | rfl | rfl | rfl <;> simp
  · left
    simp only [List.mem_cons, List.not_mem_nil, or_false] at ht
    rcases ht with rfl | rfl | rfl | rfl <;> simp

/-- The words that may follow each other without a space. -/
def closingWords : List String := ["permit", "deny", "reject", "permitlog", "denylog", "rejectlog"]

/-- An action with or without the word for the log is one of the closing words. -/
theorem mem_closingWords (action : Action) (log : Bool) :
    action.word ++ logWord log ∈ closingWords := by
  cases action
  all_goals
    cases log
    all_goals decide

/-- After the first letter of an action the end of a line cannot begin any more, nor in the word for
the log. -/
theorem not_prefix_drop_action (action : Action) (log : Bool) {j : Nat} (hpos : 0 < j)
    (hlt : j < (action.word ++ logWord log).toList.length) : ∀ s ∈ endOpenings,
    ¬ s.toList <+: (action.word ++ logWord log).toList.drop j ∧
      ¬ (action.word ++ logWord log).toList.drop j <+: s.toList := by
  have hall : ∀ j < 9, 0 < j → ∀ s ∈ endOpenings, ∀ w ∈ closingWords, j < w.toList.length →
      ¬ s.toList <+: w.toList.drop j ∧ ¬ w.toList.drop j <+: s.toList := by decide
  have hlength : ∀ w ∈ closingWords, w.toList.length ≤ 9 := by decide
  have hword := mem_closingWords action log
  intro s hs
  exact hall j (Nat.lt_of_lt_of_le hlt (hlength _ hword)) hpos s hs _ hword hlt

/-- The end of a line that begins with an action cannot be read later in the same run of characters:
not within the action or the log, nor after them. -/
theorem scanPolicyEnd_drop_eq_none {action : Action} {log : Bool} (hstart : ∀ s ∈ endOpenings,
    ¬ s.toList <+: cs) (hstop : Stops (· ≠ ' ') cs ∨ cs = ['\n']) {j : Nat} (hpos : 0 < j)
    (hle : j ≤ (((action.word ++ logWord log).toList ++ cs).takeWhile (· ≠ ' ')).length) :
    scanPolicyEnd.run (((action.word ++ logWord log).toList ++ cs).drop j) = none := by
  have hspace : ∀ w ∈ closingWords, ' ' ∉ w.toList := by decide
  have hword : ∀ c ∈ (action.word ++ logWord log).toList, decide (c ≠ ' ') := by
    intro c hc
    rw [decide_eq_true_iff]
    rintro rfl
    exact hspace _ (mem_closingWords action log) hc
  rw [List.takeWhile_append_of_pos hword, List.length_append] at hle
  rw [List.drop_append]
  rcases Nat.lt_or_ge j (action.word ++ logWord log).toList.length with hlt | hge
  · rw [Nat.sub_eq_zero_of_le (Nat.le_of_lt hlt), List.drop_zero]
    refine scanPolicyEnd_eq_none fun s hs => ?_
    obtain ⟨hst, hts⟩ := not_prefix_drop_action action log hpos hlt s hs
    rw [← String.toList_ofList (l := List.drop j _)] at hst hts ⊢
    exact not_prefix_append hst hts cs
  · rw [List.drop_eq_nil_of_le hge, List.nil_append]
    rcases Nat.eq_zero_or_pos (j - (action.word ++ logWord log).toList.length) with hzero | hmore
    · rw [hzero, List.drop_zero]
      exact scanPolicyEnd_eq_none hstart
    · -- only a final line feed is in the run and after the words
      rcases hstop with hspace | rfl
      · have hnone : cs.takeWhile (· ≠ ' ') = [] := by
          rcases cs with _ | ⟨c, cs⟩
          · rfl
          · rw [stops_cons] at hspace
            simp only [List.takeWhile_cons, hspace]
            rfl
        rw [hnone, List.length_nil] at hle
        omega
      · rw [List.drop_eq_nil_of_le (by rw [List.length_singleton]; exact hmore)]
        exact scanPolicyEnd_eq_none (by decide)

section whole

variable {gap gap' traffic schedule : String} {port : Option String} {action : Action} {log : Bool}

/-- So it is for every line that ends after the action, the log, the bandwidth and the schedule. -/
theorem scanPolicyEnd_drop_eq_none_of_whole (hgap : IsGap gap) (hgap' : IsGap gap')
    (htraffic : IsTraffic traffic) (hschedule : IsSchedule schedule) (hrest : IsEnd rest)
    {mid : List Char} (hmid : mid = (optionally (" port " ++ ·) port).toList ++ (gap.toList
      ++ (action.word.toList ++ (gap'.toList ++ ((logWord log).toList
        ++ (traffic.toList ++ (schedule.toList ++ rest)))))))
    {j : Nat} (hpos : 0 < j) (hle : j ≤ (mid.takeWhile (· ≠ ' ')).length) :
    scanPolicyEnd.run (mid.drop j) = none := by
  have hspace : ¬ ∃ cs, mid = ' ' :: cs := by
    rintro ⟨cs, hcs⟩
    rw [hcs] at hle
    simp at hle
    omega
  rcases port with _ | n
  · rcases hgap with rfl | rfl
    · rcases hgap' with rfl | rfl
      · -- the log is in the run, if it is asked for
        have hleft := isLeftOver (.inl rfl) htraffic hschedule hrest
        have hwords : mid = (action.word ++ logWord log).toList
            ++ (traffic.toList ++ (schedule.toList ++ rest)) := by
          simp [hmid]
        rw [hwords] at hle ⊢
        exact scanPolicyEnd_drop_eq_none
          (fun s hs => hleft.not_begins s (by simp [hs])) hleft.space_or_end hpos hle
      · have hwords : mid = (action.word ++ logWord false).toList ++ (" ".toList
            ++ ((logWord log).toList ++ (traffic.toList ++ (schedule.toList ++ rest)))) := by
          simp [hmid, logWord]
        rw [hwords] at hle ⊢
        refine scanPolicyEnd_drop_eq_none ?_ (.inl (by simp)) hpos hle
        cases log with
        | true =>
            have hall : ∀ s ∈ endOpenings, ¬ s.toList <+: " log".toList ∧
                ¬ " log".toList <+: s.toList := by decide
            exact fun s hs => not_prefix_append (hall s hs).1 (hall s hs).2 _
        | false =>
            exact fun s hs =>
              (isLeftOver (.inr rfl) htraffic hschedule hrest).not_begins s (by simp [hs])
    · exact absurd ⟨_, hmid⟩ hspace
  · rw [optionally_some, String.toList_append] at hmid
    exact absurd ⟨_, hmid⟩ hspace

/-- The word for the log is read in front of what a creation may end in. -/
theorem exists_run_scanLog_of_whole (log : Bool) (hgap' : IsGap gap') (htraffic : IsTraffic traffic)
    (hschedule : IsSchedule schedule) (hrest : IsEnd rest) : ∃ left, scanLog.run
      (gap'.toList ++ ((logWord log).toList ++ (traffic.toList ++ (schedule.toList ++ rest))))
      = some (log, left) := by
  cases log with
  | true => exact ⟨_, run_scanLog hgap' _⟩
  | false =>
      have hleft := isLeftOver hgap' htraffic hschedule hrest
      exact run_scanLog_of_not_begins (hleft.not_begins _ (by simp)) (hleft.not_begins _ (by simp))

end whole

/-! ## Reading creations -/

/-- What follows the words for the address replacement begins with no further such words. -/
theorem not_begins_nat {address port : Option String} {gap : String} (hgap : IsGap gap)
    (action : Action) (cs : List Char) : ¬ "nat ".toList <+:
      (optionally (" ip " ++ ·) address).toList ++ ((optionally (" port " ++ ·) port).toList
        ++ (gap.toList ++ (action.word.toList ++ cs))) := by
  rcases address with _ | a
  · exact not_begins_end (by decide) port hgap action cs
  · simp only [optionally_some, String.toList_append, List.append_assoc]
    exact not_prefix_append (by decide) (by decide) _

/-- **Every line that begins with a creation through its action is read as some creation.** -/
theorem exists_run_of_opens {front : String} (hfront : h.Opens front) (cs : List Char) :
    ∃ x, scanPolicyCreate.run (front.toList ++ cs) = some x := by
  obtain ⟨hw, spaces, gap, hspaces, hgap, rfl⟩ := hfront
  obtain ⟨⟨log, left⟩, hlog⟩ := exists_run_scanLog cs
  have hend := run_scanPolicyEnd h.action hw.natPort hgap hlog
  have haddress : ∃ y, scanNatAddress.run ((optionally (" ip " ++ ·) h.natAddress).toList
      ++ ((optionally (" port " ++ ·) h.natPort).toList
        ++ (gap.toList ++ (h.action.word.toList ++ cs)))) = some y := by
    rcases hnat : h.natAddress with _ | a
    · exact ⟨_, run_scanNatAddress_none hw.natPort hgap hlog⟩
    · obtain ⟨hne, ha⟩ := hw.natAddress a hnat
      exact exists_run_scanNatAddress hne ha hend
  obtain ⟨⟨⟨natAddress, natPort, action, log⟩, rest⟩, hrun⟩ := haddress
  have hcreate := run_scanPolicyCreate hw hspaces (not_begins_nat hgap h.action cs) hrun
  simp only [String.toList_append, List.append_assoc]
  exact ⟨_, hcreate⟩

/-- **A text of a creation is read as that creation.** -/
theorem exists_run_of_policyCreate_spells {text : String} (htext : h.Spells text)
    (hrest : IsEnd rest) :
    ∃ left, scanPolicyCreate.run (text.toList ++ rest) = some (.policyCreate h, left) := by
  obtain ⟨_, gap', traffic, schedule, ⟨hw, spaces, gap, hspaces, hgap, rfl⟩, hgap', htraffic,
    hschedule, rfl⟩ := htext
  obtain ⟨left, hlog⟩ := exists_run_scanLog_of_whole h.log hgap' htraffic hschedule hrest
  have hend := run_scanPolicyEnd h.action hw.natPort hgap hlog
  have haddress : scanNatAddress.run ((optionally (" ip " ++ ·) h.natAddress).toList
      ++ ((optionally (" port " ++ ·) h.natPort).toList ++ (gap.toList ++ (h.action.word.toList
        ++ (gap'.toList ++ ((logWord h.log).toList ++ (traffic.toList
          ++ (schedule.toList ++ rest))))))))
      = some ((h.natAddress, h.natPort, h.action, h.log), left) := by
    rcases hnat : h.natAddress with _ | a
    · exact run_scanNatAddress_none hw.natPort hgap hlog
    · obtain ⟨hne, ha⟩ := hw.natAddress a hnat
      exact run_scanNatAddress_some hne ha hend fun j hpos hle =>
        scanPolicyEnd_drop_eq_none_of_whole hgap hgap' htraffic hschedule hrest rfl hpos hle
  have hcreate := run_scanPolicyCreate hw hspaces (not_begins_nat hgap h.action _) haddress
  simp only [String.toList_append, List.append_assoc]
  exact ⟨left, hcreate⟩

/-! ## Lines consumed whole -/

/-- A line is a text of a directive, up to one final line feed. -/
def Directive.SpellsLine (d : Directive) (line : String) : Prop :=
  ∃ text rest, d.Spells text ∧ IsEnd rest ∧ line.toList = text.toList ++ rest

/-- A line begins with the creation of a policy, up to and with the action. -/
def OpensPolicy (line : String) : Prop :=
  ∃ (h : PolicyHeader) (front : String), h.Opens front ∧ front.toList <+: line.toList

/-- A line is taken as a directive only as a whole. -/
structure IsConsumedWhole (line : String) : Prop where
  /-- The line is a text of the directive that it is taken as. -/
  spelled : ∀ d, Directive.classify line = .ok (some d) → d.SpellsLine line
  /-- A line of a family that is a text of no directive is refused. -/
  refused : ∀ f ∈ families, f.Heads line → (∀ d : Directive, ¬ d.SpellsLine line) →
    Directive.classify line = .error (.malformed f.head line)

section line

variable {line : String}

/-- The reader of creations is one of the forms. -/
theorem policyCreate_mem_forms : scanPolicyCreate ∈ families.flatMap (·.forms) := by
  simp [families]

/-- **A creation is found exactly if the line begins with one through its action**, whatever
follows. -/
theorem exists_policyCreate_iff :
    (∃ h, Directive.classify line = .ok (some (.policyCreate h))) ↔ OpensPolicy line := by
  constructor
  · rintro ⟨h, hh⟩
    obtain ⟨form, hform, rest, hrun⟩ := isTable_families.classifyIn_eq_some_iff.1 hh
    obtain ⟨f, hf, hmem⟩ := List.mem_flatMap.1 hform
    by_cases hcreate : form = scanPolicyCreate
    · subst hcreate
      obtain ⟨_, ⟨h, front, gap, -, hfront, -, rfl⟩, heq⟩ := takes_scanPolicyCreate _ _ _ hrun
      refine ⟨h, front, hfront, gap.toList ++ ((logWord h.log).toList ++ rest), ?_⟩
      simpa using heq.symm
    · obtain ⟨text, ⟨front, gap, traffic, schedule, hfront, -, -, -, rfl⟩, heq⟩ :=
        (takes_of_mem_families hf hmem hcreate).2 _ _ _ hrun
      refine ⟨h, front, hfront, gap.toList ++ ((logWord h.log).toList ++ (traffic.toList
        ++ (schedule.toList ++ rest))), ?_⟩
      simpa using heq.symm
  · rintro ⟨h, front, hfront, cs, heq⟩
    obtain ⟨⟨d, rest⟩, hrun⟩ := exists_run_of_opens hfront cs
    obtain ⟨header, rfl⟩ := yields_policyCreate _ _ _ hrun
    rw [heq] at hrun
    exact ⟨header, isTable_families.classifyIn_eq_some_iff.2
      ⟨_, policyCreate_mem_forms, rest, hrun⟩⟩

/-- A line that is a text of a creation is found to be that creation. -/
theorem classify_of_policyCreate_spellsLine {h : PolicyHeader}
    (hline : (Directive.policyCreate h).SpellsLine line) :
    Directive.classify line = .ok (some (.policyCreate h)) := by
  obtain ⟨text, rest, htext, hrest, heq⟩ := hline
  obtain ⟨left, hrun⟩ := exists_run_of_policyCreate_spells htext hrest
  rw [← heq] at hrun
  exact isTable_families.classifyIn_eq_some_iff.2 ⟨_, policyCreate_mem_forms, left, hrun⟩

/-- A line of a family that is refused is malformed for this family. -/
theorem classify_of_heads {f : Family} (hf : f ∈ families) (hline : f.Heads line)
    (hnone : ∀ d, Directive.classify line ≠ .ok (some d)) :
    Directive.classify line = .error (.malformed f.head line) := by
  rcases hresult : Directive.classify line with fault | _ | d
  · obtain ⟨g, hg, hgline, -, rfl⟩ := classify_eq_error_iff.1 hresult
    rw [Family.eq_of_heads hf hg hline hgline]
  · exact absurd hline ((classifyIn_eq_none_iff isTable_families.begins).1 hresult f hf)
  · exact absurd hresult (hnone d)

/-- **A line is consumed whole exactly if it is, should it begin with the creation of a policy, the
text of a creation.** All other kinds of directives are consumed whole in any case; a creation is
found in every line that begins with one through its action, and what follows is dropped. -/
theorem isConsumedWhole_iff (line : String) :
    (IsConsumedWhole line ↔
      (OpensPolicy line → ∃ h, (Directive.policyCreate h).SpellsLine line)) ∧
    ((∃ h, Directive.classify line = .ok (some (.policyCreate h))) ↔ OpensPolicy line) := by
  refine ⟨⟨fun h hopens => ?_, fun h => ?_⟩, exists_policyCreate_iff⟩
  · obtain ⟨header, hheader⟩ := exists_policyCreate_iff.2 hopens
    exact ⟨header, h.spelled _ hheader⟩
  · have hspelled (d : Directive) (hd : Directive.classify line = .ok (some d)) :
        d.SpellsLine line := by
      by_cases hcreate : ∃ header, d = .policyCreate header
      · obtain ⟨header, rfl⟩ := hcreate
        obtain ⟨header', hline⟩ := h (exists_policyCreate_iff.1 ⟨header, hd⟩)
        have hsame := (classify_of_policyCreate_spellsLine hline).symm.trans hd
        cases hsame
        exact hline
      · exact exists_spells_of_classify (fun header hheader => hcreate ⟨header, hheader⟩) hd
    exact ⟨hspelled, fun f hf hline hnone =>
      classify_of_heads hf hline fun d hd => hnone d (hspelled d hd)⟩

end line

/-! ## What is dropped -/

/-- The last character of a creation: of its action, of the word for the log, of a number, a quote
or a space. -/
def IsLastOfCreation (c : Char) : Prop := c ∈ ['t', 'y', 'g', '"', ' '] ∨ isDigit c

/-- Every text of a creation ends in one of these. -/
theorem exists_getLast_creation {text : String} (htext : h.Spells text) :
    ∃ c, text.toList.getLast? = some c ∧ IsLastOfCreation c := by
  obtain ⟨_, gap', traffic, schedule, ⟨-, spaces, gap, -, -, rfl⟩, hgap', htraffic, hschedule,
    rfl⟩ := htext
  have haction : ∃ c, h.action.word.toList.getLast? = some c ∧ IsLastOfCreation c := by
    cases h.action
    · exact ⟨'t', rfl, .inl (by decide)⟩
    · exact ⟨'t', rfl, .inl (by decide)⟩
    · exact ⟨'y', rfl, .inl (by decide)⟩
  -- the last part of the line that is there
  rcases hschedule with rfl | ⟨name, -, rfl⟩
  · rcases htraffic with rfl | ⟨settings, hne, hsettings, rfl⟩
    · rcases hlog : h.log with _ | _
      · rcases hgap' with rfl | rfl
        · obtain ⟨c, hc, hlast⟩ := haction
          exact ⟨c, by simp [logWord, List.getLast?_append, hc], hlast⟩
        · exact ⟨' ', by simp [logWord], .inl (by decide)⟩
      · exact ⟨'g', by simp [logWord], .inl (by decide)⟩
    · obtain ⟨earlier, setting, rfl⟩ := (List.eq_nil_or_concat settings).resolve_left hne
      obtain ⟨word, n, -, -, hn, rfl⟩ := hsettings setting (by simp)
      have hnil : n.toList ≠ [] := fun hnil => hn.1 (String.toList_eq_nil_iff.1 hnil)
      refine ⟨n.toList.getLast hnil, ?_, .inr (hn.2 _ (List.getLast_mem hnil))⟩
      simp only [String.toList_append, String.toList_join, List.concat_eq_append,
        List.flatMap_append, List.flatMap_singleton, String.toList_empty, List.append_nil,
        List.getLast?_append, List.getLast?_eq_some_getLast hnil, Option.some_or]
  · exact ⟨'"', by simp [inQuotes, List.getLast?_append, List.getLast?_cons], .inl (by decide)⟩

/-- A creation with an authentication after its action is taken without it. -/
theorem not_isConsumedWhole_auth : ¬ IsConsumedWhole
    "set policy id 1 from \"A\" to \"B\" \"any\" \"any\" \"ANY\" permit auth" := by
  intro hwhole
  obtain ⟨text, rest, htext, hrest, heq⟩ := hwhole.spelled (.policyCreate
    { id := "1", name := none, fromZone := "A", toZone := "B", source := "any",
      destination := "any", service := "ANY", nat := .none, natAddress := none, natPort := none,
      action := .permit, log := false }) (by rfl)
  obtain ⟨c, hc, hlast⟩ := exists_getLast_creation htext
  have hlineLast : (String.toList
      "set policy id 1 from \"A\" to \"B\" \"any\" \"any\" \"ANY\" permit auth").getLast?
      = some 'h' := by
    decide
  rw [heq, List.getLast?_append, hc] at hlineLast
  have hdigit : isDigit 'h' = false := by decide
  rcases hrest with rfl | rfl
  · obtain rfl : c = 'h' := by simpa using hlineLast
    rcases hlast with hlast | hlast
    · exact absurd hlast (by decide)
    · rw [hdigit] at hlast
      cases hlast
  · simp at hlineLast

end ZoneFirewall
