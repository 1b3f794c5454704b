import EnvScout.Proofs.Log.History

/-!
What a repeat filter promises over a whole run. Whether a message is dropped depends on nothing but
the copies written before it: forgetting old messages is never seen in the decisions. The number of
dropped copies that a written one reports is another matter. It is exact until the filter forgets
the message with the copies dropped of it, and is then zero.
-/

namespace EnvScout.Log.RepeatFilter

variable {full : Nat → Bool} {window : Nat} {past : List Call} {c : Call}

theorem decisionOn_eq_none_iff {now : Nat} {seen? : Option Seen} :
    decisionOn window now seen? = none ↔ ∃ seen, seen? = some seen ∧ now - seen.last < window := by
  cases seen? with
  | none => simp [decisionOn]
  | some seen => simp [decisionOn, isRecent]

/-- A message still in its window cannot have been forgotten. -/
theorem remembered_of_recent (hsorted : (past ++ [c]).Pairwise fun a b => a.time ≤ b.time)
    {last : Nat} (hlast : lastWritten? c.message past = some last)
    (hrecent : c.time - last < window) :
    remembered full window c.message past (sinceWritten c.message past ++ [c]) =
      some ⟨last, droppedSince c.message past⟩ := by
  obtain ⟨-, -, hbefore⟩ := List.pairwise_append.mp hsorted
  have hkept : (sinceWritten c.message past ++ [c]).any (Call.purges full window last) = false := by
    rw [List.any_eq_false]
    intro later hlater hpurges
    have hle : later.time ≤ c.time := by
      rcases List.mem_append.mp hlater with h | h
      · exact hbefore later (mem_sinceWritten h) c (List.mem_singleton.mpr rfl)
      · rw [List.mem_singleton.mp h]
    simp only [Call.purges, Bool.and_eq_true, decide_eq_true_eq] at hpurges
    omega
  rw [remembered, hlast]
  simp [hkept]

theorem decisionOn_remembered_eq_none_iff
    (hsorted : (past ++ [c]).Pairwise fun a b => a.time ≤ b.time) :
    decisionOn window c.time
        (remembered full window c.message past (sinceWritten c.message past ++ [c])) = none ↔
      ∃ last, lastWritten? c.message past = some last ∧ c.time - last < window := by
  rw [decisionOn_eq_none_iff]
  constructor
  · rintro ⟨seen, hseen, hrecent⟩
    exact ⟨seen.last, (remembered_eq_some hseen).1, hrecent⟩
  · rintro ⟨last, hlast, hrecent⟩
    exact ⟨_, remembered_of_recent hsorted hlast hrecent, hrecent⟩

/-- The last copy written is within the window if any copy is. -/
theorem exists_written_within_iff (hpast : past.Pairwise fun a b => a.time ≤ b.time) :
    (∃ last, lastWritten? c.message past = some last ∧ c.time - last < window) ↔
      ∃ earlier ∈ past, earlier.message = c.message ∧ earlier.decision.isSome = true ∧
        c.time - earlier.time < window := by
  constructor
  · rintro ⟨last, hlast, hrecent⟩
    obtain ⟨earlier, hmem, hwrites, rfl⟩ := writes_of_lastWritten? hlast
    simp only [Call.writes, Bool.and_eq_true, beq_iff_eq] at hwrites
    exact ⟨earlier, hmem, hwrites.1, hwrites.2, hrecent⟩
  · rintro ⟨earlier, hmem, hsame, hsome, hrecent⟩
    have hwrites : earlier.writes c.message = true := by simp [Call.writes, hsame, hsome]
    obtain ⟨last, hlast, hle⟩ := le_lastWritten? hpast hmem hwrites
    exact ⟨last, hlast, by omega⟩

theorem pairwise_callsBy {step : RepeatFilter → String → Nat → Option Nat × RepeatFilter}
    {filter : RepeatFilter} {messages : List (String × Nat)}
    (h : messages.Pairwise fun a b => a.2 ≤ b.2) :
    (filter.callsBy step messages).Pairwise fun a b => a.time ≤ b.time := by
  rw [← map_message_time_callsBy step filter messages, List.pairwise_map] at h
  exact h

/-- The calls in which a message is dropped just when a copy was written within the window. -/
def DropsRecent (window : Nat) (cs : List Call) : Prop :=
  ∀ past c rest, cs = past ++ c :: rest →
    (c.decision = none ↔ ∃ earlier ∈ past, earlier.message = c.message ∧
      earlier.decision.isSome = true ∧ c.time - earlier.time < window)

theorem dropsRecent_of_decisions {cs : List Call}
    (hsorted : cs.Pairwise fun a b => a.time ≤ b.time)
    (hdecisions : ∀ past c rest, cs = past ++ c :: rest →
      c.decision = decisionOn window c.time
        (remembered full window c.message past (sinceWritten c.message past ++ [c]))) :
    DropsRecent window cs := by
  intro past c rest hcs
  have hpast : (past ++ [c]).Pairwise fun a b => a.time ≤ b.time := by
    refine hsorted.sublist ?_
    rw [hcs]
    exact (List.singleton_sublist.mpr List.mem_cons_self).append_left past
  rw [hdecisions past c rest hcs, decisionOn_remembered_eq_none_iff hpast]
  exact exists_written_within_iff (List.pairwise_append.mp hpast).1

theorem dropsRecent_calls {messages : List (String × Nat)}
    (hsorted : messages.Pairwise fun a b => a.2 ≤ b.2) :
    DropsRecent window ((new window).calls messages) :=
  dropsRecent_of_decisions (pairwise_callsBy hsorted) fun _ _ _ => decision_of_calls

theorem dropsRecent_callsKeeping {messages : List (String × Nat)}
    (hsorted : messages.Pairwise fun a b => a.2 ≤ b.2) :
    DropsRecent window ((new window).callsKeeping messages) :=
  dropsRecent_of_decisions (pairwise_callsBy hsorted) fun _ _ _ => decision_of_callsKeeping

theorem DropsRecent.init {cs : List Call} (h : DropsRecent window (cs ++ [c])) :
    DropsRecent window cs :=
  fun past c' rest hcs => h past c' (rest ++ [c]) (by rw [hcs, List.append_assoc]; rfl)

theorem exists_written_congr {as bs : List Call} {message : String} {now : Nat}
    (h : as.map (fun c => (c.message, c.time, c.decision.isSome)) =
      bs.map fun c => (c.message, c.time, c.decision.isSome)) :
    (∃ earlier ∈ as, earlier.message = message ∧ earlier.decision.isSome = true ∧
        now - earlier.time < window) ↔
      ∃ earlier ∈ bs, earlier.message = message ∧ earlier.decision.isSome = true ∧
        now - earlier.time < window := by
  have hkeys : ∀ cs : List Call,
      (∃ earlier ∈ cs, earlier.message = message ∧ earlier.decision.isSome = true ∧
        now - earlier.time < window) ↔
      ∃ key ∈ cs.map fun c => (c.message, c.time, c.decision.isSome),
        key.1 = message ∧ key.2.2 = true ∧ now - key.2.1 < window := by
    intro cs
    simp only [List.mem_map, exists_exists_and_eq_and]
  rw [hkeys as, hkeys bs, h]

/-- The rule settles the decisions on given messages. -/
theorem DropsRecent.unique {as bs : List Call} (ha : DropsRecent window as)
    (hb : DropsRecent window bs)
    (hsame : as.map (fun c => (c.message, c.time)) = bs.map fun c => (c.message, c.time)) :
    as.map (fun c => (c.message, c.time, c.decision.isSome)) =
      bs.map fun c => (c.message, c.time, c.decision.isSome) := by
  induction as using List.reverseRecOn generalizing bs with
  | nil =>
      rw [List.map_nil, eq_comm, List.map_eq_nil_iff] at hsame
      rw [hsame]
  | append_singleton as a ih =>
      rcases List.eq_nil_or_concat bs with rfl | ⟨bs, b, rfl⟩
      · simp at hsame
      · simp only [List.concat_eq_append, List.map_append, List.map_singleton] at hb hsame ⊢
        obtain ⟨hinit, hlast⟩ := List.append_inj' hsame rfl
        obtain ⟨hmessage, htime⟩ := Prod.mk.inj (List.cons.inj hlast).1
        have heq := ih ha.init hb.init hinit
        have hnone : a.decision = none ↔ b.decision = none := by
          rw [ha as a [] rfl, hb bs b [] rfl, hmessage, htime]
          exact exists_written_congr heq
        have hsome : a.decision.isSome = b.decision.isSome := by
          rw [← Option.not_isNone, ← Option.not_isNone, Bool.not_inj_iff, Bool.eq_iff_iff,
            Option.isNone_iff_eq_none, Option.isNone_iff_eq_none, hnone]
        rw [heq, hmessage, htime, hsome]

theorem DropsRecent.le_of_written {cs : List Call} (h : DropsRecent window cs)
    (hsorted : cs.Pairwise fun a b => a.time ≤ b.time) {past between rest : List Call}
    {first second : Call} (hcs : cs = past ++ first :: between ++ second :: rest)
    (hsame : first.message = second.message) (hfirst : first.decision.isSome = true)
    (hsecond : second.decision.isSome = true) : first.time + window ≤ second.time := by
  have hmem : first ∈ past ++ first :: between := List.mem_append_right _ List.mem_cons_self
  have hle : first.time ≤ second.time := by
    rw [hcs] at hsorted
    exact (List.pairwise_append.mp hsorted).2.2 first hmem second List.mem_cons_self
  have hout : ¬ second.time - first.time < window := by
    intro hrecent
    have hnone := (h _ _ _ hcs).mpr ⟨first, hmem, hsame, hfirst, hrecent⟩
    rw [hnone] at hsecond
    cases hsecond
  omega

theorem DropsRecent.isSome_of_old {cs : List Call} (h : DropsRecent window cs)
    (hsorted : cs.Pairwise fun a b => a.time ≤ b.time) {past rest : List Call} {c : Call}
    (hcs : cs = past ++ c :: rest) {last : Nat}
    (hlast : lastWritten? c.message past = some last) (hold : window ≤ c.time - last) :
    c.decision.isSome = true := by
  rw [hcs] at hsorted
  rw [Option.isSome_iff_ne_none]
  intro hnone
  rw [h _ _ _ hcs, ← exists_written_within_iff (List.pairwise_append.mp hsorted).1] at hnone
  obtain ⟨last', hlast', hrecent⟩ := hnone
  rw [hlast] at hlast'
  cases hlast'
  omega

/-- Forgetting is not seen in the decisions. A message is dropped just when some copy of it was
written within the window before, the decisions are those of a filter that never forgets, copies
written are a window apart, and a message whose last written copy is a window old is written. The
calls of which this holds are the messages as a run of the filter decides on them. -/
theorem dropped_iff_written_within_window (window : Nat) (messages : List (String × Nat))
    (hsorted : messages.Pairwise fun a b => a.2 ≤ b.2) :
    (∀ past c rest, (new window).calls messages = past ++ c :: rest →
      (c.decision = none ↔ ∃ earlier ∈ past, earlier.message = c.message ∧
        earlier.decision.isSome = true ∧ c.time - earlier.time < window)) ∧
    ((new window).calls messages).map (fun c => c.decision.isSome) =
      ((new window).callsKeeping messages).map (fun c => c.decision.isSome) ∧
    (∀ past first between second rest,
      (new window).calls messages = past ++ first :: between ++ second :: rest →
      first.message = second.message → first.decision.isSome = true →
      second.decision.isSome = true → first.time + window ≤ second.time) ∧
    (∀ past c rest last, (new window).calls messages = past ++ c :: rest →
      lastWritten? c.message past = some last → window ≤ c.time - last →
      c.decision.isSome = true) ∧
    ((new window).calls messages).map (fun c => (c.message, c.time)) = messages ∧
    ((new window).calls messages).map Call.decision =
      ((new window).run messages).map Prod.fst := by
  have hcalls : DropsRecent window ((new window).calls messages) := dropsRecent_calls hsorted
  have htimes : ((new window).calls messages).Pairwise fun a b => a.time ≤ b.time :=
    pairwise_callsBy hsorted
  refine ⟨hcalls, ?_, ?_, ?_, map_message_time_callsBy _ _ _, map_decision_calls _ _⟩
  · have hsame := hcalls.unique (dropsRecent_callsKeeping hsorted)
      ((map_message_time_callsBy _ _ _).trans (map_message_time_callsBy _ _ _).symm)
    have hsome := congrArg (List.map fun key => key.2.2) hsame
    rwa [List.map_map, List.map_map] at hsome
  · intro past first between second rest hcs hsame hfirst hsecond
    exact hcalls.le_of_written htimes hcs hsame hfirst hsecond
  · intro past c rest last hcs hlast hold
    exact hcalls.isSome_of_old htimes hcs hlast hold

/-- A message dropped once, as many others as fill the table, and the message again when all that
was written is out of its window. -/
def crowd : List (String × Nat) :=
  ("m", 0) :: ("m", 1000) ::
    (List.range 63).map (fun n => (toString n, 2000)) ++
    [("m", 10000)]

theorem crowd_decided_as_by_keeping :
    crowd.Pairwise (fun a b => a.2 ≤ b.2) ∧
      ((new 5000).calls crowd).map (fun c => c.decision.isSome) =
        ((new 5000).callsKeeping crowd).map (fun c => c.decision.isSome) :=
  have hsorted : crowd.Pairwise fun a b => a.2 ≤ b.2 := by decide +kernel
  ⟨hsorted, (dropped_iff_written_within_window 5000 crowd hsorted).2.1⟩

/-- Some call since the last copy of the message was written, the call `c` itself perhaps, found the
table full and that copy out of its window. -/
def Forgotten (window : Nat) (past : List Call) (c : Call) : Prop :=
  ∃ last, lastWritten? c.message past = some last ∧
    ∃ later ∈ sinceWritten c.message past ++ [c],
      trackedLimit ≤ later.tracked ∧ window ≤ later.time - last

theorem any_purges_atLimit_iff {last : Nat} {later : List Call} :
    later.any (Call.purges atLimit window last) = true ↔
      ∃ c ∈ later, trackedLimit ≤ c.tracked ∧ window ≤ c.time - last := by
  simp [Call.purges, atLimit]

theorem remembered_atLimit_eq_none_iff :
    remembered atLimit window c.message past (sinceWritten c.message past ++ [c]) = none ↔
      lastWritten? c.message past = none ∨ Forgotten window past c := by
  rw [remembered, Forgotten]
  cases lastWritten? c.message past with
  | none => simp
  | some last =>
      simp only [reduceCtorEq, false_or, Option.some.injEq, exists_eq_left']
      rw [← any_purges_atLimit_iff]
      cases (sinceWritten c.message past ++ [c]).any (Call.purges atLimit window last) <;> simp

/-- Nothing is dropped of a message that was never written. -/
theorem droppedSince_of_not_written {messages : List (String × Nat)} {rest : List Call}
    (hcalls : (new window).calls messages = past ++ rest) {message : String}
    (h : lastWritten? message past = none) : droppedSince message past = 0 := by
  rw [droppedSince, List.countP_eq_zero]
  intro d hd hdrops
  obtain ⟨before, after, rfl⟩ := List.append_of_mem (mem_sinceWritten hd)
  rw [List.append_assoc, List.cons_append] at hcalls
  simp only [Call.drops, Bool.and_eq_true, beq_iff_eq, Option.isNone_iff_eq_none] at hdrops
  obtain ⟨rfl, hdecision⟩ := hdrops
  rw [decision_of_calls hcalls, decisionOn_eq_none_iff] at hdecision
  obtain ⟨seen, hseen, -⟩ := hdecision
  obtain ⟨writer, hmem, hwrites, -⟩ := writes_of_lastWritten? (remembered_eq_some hseen).1
  have hnever := lastWritten?_eq_none_iff.mp h writer (List.mem_append_left _ hmem)
  rw [hwrites] at hnever
  cases hnever

/-- The count reported with a written copy is the number of copies dropped since the one written
before, unless the message has been forgotten in between; then it is zero. So it is right just when
the message has not been forgotten or nothing was dropped. It is the count that a run of the filter
gives in this place. -/
theorem reported_eq_droppedSince_iff (window : Nat) (messages : List (String × Nat))
    (past : List Call) (c : Call) (rest : List Call) (reported : Nat)
    (hcalls : (new window).calls messages = past ++ c :: rest)
    (hwritten : c.decision = some reported) :
    (reported = droppedSince c.message past ↔
      ¬Forgotten window past c ∨ droppedSince c.message past = 0) ∧
    (Forgotten window past c → reported = 0) ∧
    (((new window).run messages)[past.length]?).map Prod.fst = some (some reported) := by
  have hrun : (((new window).run messages)[past.length]?).map Prod.fst = some (some reported) := by
    rw [← List.getElem?_map, ← map_decision_calls, hcalls, ← hwritten]
    simp
  rw [decision_of_calls hcalls] at hwritten
  cases hknown : remembered atLimit window c.message past (sinceWritten c.message past ++ [c]) with
  | none =>
      rw [hknown] at hwritten
      cases hwritten
      refine ⟨?_, fun _ => rfl, hrun⟩
      rcases remembered_atLimit_eq_none_iff.mp hknown with hnever | hforgotten
      · simp [droppedSince_of_not_written hcalls hnever]
      · simp [hforgotten, eq_comm]
  | some seen =>
      have hkept : ¬Forgotten window past c := by
        intro hforgotten
        rw [remembered_atLimit_eq_none_iff.mpr (Or.inr hforgotten)] at hknown
        cases hknown
      have hreported : seen.dropped = reported := by
        rw [hknown, decisionOn] at hwritten
        split at hwritten
        · cases hwritten
        · exact Option.some.inj hwritten
      refine ⟨?_, fun hforgotten => absurd hforgotten hkept, hrun⟩
      rw [← hreported, (remembered_eq_some hknown).2.1]
      simp [hkept]

def crowdPast : List Call :=
  ((new 5000).calls crowd).dropLast

theorem calls_crowd :
    (new 5000).calls crowd = crowdPast ++ ⟨"m", 10000, some 0, 64⟩ :: [] := by
  decide +kernel

theorem droppedSince_crowdPast : droppedSince "m" crowdPast = 1 := by
  decide +kernel

theorem crowd_forgotten :
    (new 5000).calls crowd = crowdPast ++ ⟨"m", 10000, some 0, 64⟩ :: [] ∧
      Forgotten 5000 crowdPast ⟨"m", 10000, some 0, 64⟩ := by
  refine ⟨calls_crowd, ?_⟩
  obtain ⟨hiff, -⟩ := reported_eq_droppedSince_iff 5000 crowd _ _ _ _ calls_crowd rfl
  rw [droppedSince_crowdPast] at hiff
  by_contra hkept
  exact absurd (hiff.mpr (Or.inl hkept)) Nat.zero_ne_one

/-- The count is lost when the table is full as the message comes back. -/
theorem not_reported_eq_droppedSince :
    ¬∀ (window : Nat) (messages : List (String × Nat)),
      messages.Pairwise (fun a b => a.2 ≤ b.2) →
      ∀ past c rest reported, (new window).calls messages = past ++ c :: rest →
        c.decision = some reported → reported = droppedSince c.message past := by
  intro h
  have heq := h 5000 crowd (by decide +kernel) _ _ _ _ calls_crowd rfl
  rw [droppedSince_crowdPast] at heq
  cases heq

end EnvScout.Log.RepeatFilter
