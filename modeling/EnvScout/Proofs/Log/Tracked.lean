import EnvScout.Proofs.Log.Repeats
import Mathlib.Data.List.Dedup
import Mathlib.Data.List.Perm.Subperm

/-!
How many messages a repeat filter tracks. A full table is purged before a message is put into it, so
after each call either the table is within its limit, or whatever it holds was written within the
window before. A table over its limit is therefore no larger than recent traffic makes it.
-/

namespace EnvScout.Log.RepeatFilter

/-- The messages that a filter tracks. -/
def tracked (filter : RepeatFilter) : List String :=
  filter.seen.map Prod.fst

/-- The filter after messages that came one after the other. -/
def after (filter : RepeatFilter) (messages : List (String × Nat)) : RepeatFilter :=
  messages.foldl (fun filter entry => (filter.decide entry.1 entry.2).2) filter

variable {filter : RepeatFilter} {window now : Nat} {message : String}

/-! One call. -/

/-- A call purges the table and then sets the row of its message, either to a copy written just now
or to one that is still in its window. -/
theorem exists_decide_eq_track (filter : RepeatFilter) (message : String) (now : Nat) :
    ∃ seen, (filter.decide message now).2 = (filter.purge now).track message seen ∧
      (seen.last = now ∨ isRecent filter.window now seen = true) := by
  have hwindow : (filter.purge now).window = filter.window := by
    rw [purge]
    split <;> rfl
  rw [decide]
  cases (filter.purge now).seen.lookup message with
  | none => exact ⟨⟨now, 0⟩, rfl, Or.inl rfl⟩
  | some seen =>
      dsimp only
      by_cases hrecent : isRecent (filter.purge now).window now seen = true
      · rw [if_pos hrecent]
        rw [hwindow] at hrecent
        exact ⟨⟨seen.last, seen.dropped + 1⟩, rfl, Or.inr hrecent⟩
      · rw [if_neg hrecent]
        exact ⟨⟨now, 0⟩, rfl, Or.inl rfl⟩

theorem length_setSeen_le (message : String) (seen : Seen) (entries : List (String × Seen)) :
    (setSeen message seen entries).length ≤ entries.length + 1 := by
  induction entries with
  | nil => exact Nat.le_refl 1
  | cons entry rest ih =>
      rw [setSeen]
      split
      · exact Nat.le_succ _
      · exact Nat.succ_le_succ ih

/-- The table is within its limit, or all that is in it is in its window. -/
def FewOrRecent (filter : RepeatFilter) (now : Nat) : Prop :=
  filter.seen.length ≤ trackedLimit ∨
    ∀ entry ∈ filter.seen, isRecent filter.window now entry.2 = true

/-- A call leaves the table like this whatever it was before. -/
theorem fewOrRecent_decide (filter : RepeatFilter) (message : String) (now : Nat) :
    (filter.decide message now).2.FewOrRecent now := by
  obtain ⟨seen, hnext, hseen⟩ := exists_decide_eq_track filter message now
  rw [hnext]
  by_cases hfull : filter.seen.length ≥ trackedLimit
  · rw [purge, if_pos hfull]
    by_cases hwindow : filter.window = 0
    · -- With no window at all the purge leaves nothing, and one message is few.
      left
      have hnone : (filter.seen.filter fun entry => isRecent filter.window now entry.2) = [] :=
        List.filter_eq_nil_iff.mpr fun entry _ => by simp [isRecent, hwindow]
      simp [track, hnone, setSeen, trackedLimit]
    · right
      intro entry hentry
      rcases mem_setSeen hentry with rfl | hkept
      · rcases hseen with hlast | hrecent
        · simpa [track, isRecent, hlast] using Nat.pos_of_ne_zero hwindow
        · exact hrecent
      · exact (List.mem_filter.mp hkept).2
  · left
    have hlength := length_setSeen_le message seen filter.seen
    rw [purge, if_neg hfull]
    show (setSeen message seen filter.seen).length ≤ trackedLimit
    omega

/-! A run of calls. -/

theorem after_append (filter : RepeatFilter) (front rest : List (String × Nat)) :
    filter.after (front ++ rest) = (filter.after front).after rest :=
  List.foldl_append

theorem run_append (filter : RepeatFilter) (front rest : List (String × Nat)) :
    filter.run (front ++ rest) = filter.run front ++ (filter.after front).run rest := by
  induction front generalizing filter with
  | nil => rfl
  | cons first front ih => exact congrArg _ (ih _)

theorem length_run (filter : RepeatFilter) (messages : List (String × Nat)) :
    (filter.run messages).length = messages.length := by
  induction messages generalizing filter with
  | nil => rfl
  | cons first rest ih => exact congrArg Nat.succ (ih _)

/-- The number that a run reports with a decision is that of the messages tracked after it. -/
theorem getElem?_run (filter : RepeatFilter) (front : List (String × Nat))
    (entry : String × Nat) (rest : List (String × Nat)) :
    ((filter.run (front ++ entry :: rest))[front.length]?).map Prod.snd =
      some (filter.after (front ++ [entry])).tracked.length := by
  rw [run_append, List.getElem?_append_right (length_run filter front).le, length_run,
    Nat.sub_self, after_append, tracked, List.length_map]
  rfl

/-- After any run the table is what the calls say of it. -/
theorem Knows.after {past : List Call} (h : Knows atLimit window past filter)
    (messages : List (String × Nat)) :
    Knows atLimit window (past ++ filter.calls messages) (filter.after messages) := by
  induction messages generalizing filter past with
  | nil =>
      rw [calls, callsBy, List.append_nil]
      exact h
  | cons first rest ih =>
      have hstep := h.step ⟨first.1, first.2, (filter.decide first.1 first.2).1,
        filter.seen.length⟩ rfl (by rw [decideWhen_atLimit])
      rw [decideWhen_atLimit] at hstep
      rw [calls, callsBy, List.append_cons]
      exact ih hstep

/-- Whatever is tracked was written by one of the calls, at the time its row says. -/
theorem Knows.exists_writes_of_mem {full : Nat → Bool} {past : List Call}
    (h : Knows full window past filter) {entry : String × Seen} (hentry : entry ∈ filter.seen) :
    ∃ c ∈ past, c.message = entry.1 ∧ c.decision.isSome = true ∧ c.time = entry.2.last := by
  have hlookup := lookup_of_mem_of_nodup h.nodup hentry
  rw [h.lookup_eq] at hlookup
  obtain ⟨c, hmem, hwrites, htime⟩ := writes_of_lastWritten? (remembered_eq_some hlookup).1
  simp only [Call.writes, Bool.and_eq_true, beq_iff_eq] at hwrites
  exact ⟨c, hmem, hwrites.1, hwrites.2, htime⟩

/-- The messages of which a copy was written within the window before, each of them once. -/
def writtenWithin (window now : Nat) (past : List Call) : List String :=
  ((past.filter fun c => c.decision.isSome && now - c.time < window).map Call.message).dedup

theorem mem_writtenWithin {past : List Call} :
    message ∈ writtenWithin window now past ↔
      ∃ c ∈ past, c.message = message ∧ c.decision.isSome = true ∧ now - c.time < window := by
  simp only [writtenWithin, List.mem_dedup, List.mem_map, List.mem_filter, Bool.and_eq_true,
    decide_eq_true_eq]
  constructor
  · rintro ⟨c, ⟨hmem, hsome, hrecent⟩, hmessage⟩
    exact ⟨c, hmem, hmessage, hsome, hrecent⟩
  · rintro ⟨c, hmem, hmessage, hsome, hrecent⟩
    exact ⟨c, ⟨hmem, hsome, hrecent⟩, hmessage⟩

/-- No call comes after the latest message. -/
theorem time_le_of_mem_calls {front : List (String × Nat)} {latest : String × Nat} {c : Call}
    (hsorted : (front ++ [latest]).Pairwise fun a b => a.2 ≤ b.2)
    (hc : c ∈ filter.calls (front ++ [latest])) : c.time ≤ latest.2 := by
  have hmem : (c.message, c.time) ∈ front ++ [latest] := by
    rw [← map_message_time_callsBy decide filter (front ++ [latest])]
    exact List.mem_map_of_mem hc
  rcases List.mem_append.mp hmem with hfront | hlatest
  · exact (List.pairwise_append.mp hsorted).2.2 _ hfront latest (List.mem_singleton_self latest)
  · rw [← List.mem_singleton.mp hlatest]

/-- Of the messages that come one after the other, those tracked after each are at most as many as
the limit, or every one of them was written within the window before; so there are never more of
them than the limit or, where these are more, than the messages written within the window. -/
theorem tracked_few_or_recent (window : Nat) (messages : List (String × Nat))
    (hsorted : messages.Pairwise fun a b => a.2 ≤ b.2) (front rest : List (String × Nat))
    (message : String) (now : Nat) (hsplit : messages = front ++ (message, now) :: rest) :
    let past := (new window).calls (front ++ [(message, now)])
    let tracked := ((new window).after (front ++ [(message, now)])).tracked
    (((new window).run messages)[front.length]?).map Prod.snd = some tracked.length ∧
      tracked.Nodup ∧
      (tracked.length ≤ trackedLimit ∨
        ∀ m ∈ tracked, ∃ c ∈ past, c.message = m ∧ c.decision.isSome = true ∧
          c.time ≤ now ∧ now - c.time < window) ∧
      tracked.length ≤ max trackedLimit (writtenWithin window now past).length := by
  intro past tracked
  have hfront : (front ++ [(message, now)]).Pairwise fun a b => a.2 ≤ b.2 := by
    refine hsorted.sublist ?_
    rw [hsplit]
    exact (List.singleton_sublist.mpr List.mem_cons_self).append_left front
  have hknows : Knows atLimit window past ((new window).after (front ++ [(message, now)])) :=
    (knows_new atLimit window).after _
  have hbound : tracked.length ≤ trackedLimit ∨
      ∀ m ∈ tracked, ∃ c ∈ past, c.message = m ∧ c.decision.isSome = true ∧
        c.time ≤ now ∧ now - c.time < window := by
    have hlast : ((new window).after (front ++ [(message, now)])).FewOrRecent now := by
      rw [after_append]
      exact fewOrRecent_decide _ message now
    refine hlast.imp (fun hfew => ?_) fun hrecent m hm => ?_
    · rw [show tracked.length = _ from List.length_map _]
      exact hfew
    · obtain ⟨entry, hentry, rfl⟩ := List.mem_map.mp hm
      obtain ⟨c, hc, hmessage, hwritten, htime⟩ := hknows.exists_writes_of_mem hentry
      have hwithin := hrecent entry hentry
      rw [hknows.window_eq, isRecent, decide_eq_true_eq, ← htime] at hwithin
      exact ⟨c, hc, hmessage, hwritten, time_le_of_mem_calls hfront hc, hwithin⟩
  refine ⟨?_, hknows.nodup, hbound, ?_⟩
  · rw [hsplit]
    exact getElem?_run _ _ _ _
  · rcases hbound with hfew | hrecent
    · exact hfew.trans (Nat.le_max_left _ _)
    · refine (List.Subperm.length_le ?_).trans (Nat.le_max_right _ _)
      refine hknows.nodup.subperm fun m hm => ?_
      obtain ⟨c, hc, hmessage, hwritten, -, hwithin⟩ := hrecent m hm
      exact mem_writtenWithin.mpr ⟨c, hc, hmessage, hwritten, hwithin⟩

/-- Sixty-five messages within a moment. -/
def burst : List (String × Nat) :=
  (List.range 65).map fun n => (toString n, n)

/-- After the last of them all are tracked, one more than the limit, and all were just written. -/
theorem burst_tracked_as_recent :
    burst.Pairwise (fun a b => a.2 ≤ b.2) ∧
      burst = burst.dropLast ++ ("64", 64) :: [] ∧
      ¬((new 5000).after burst).tracked.length ≤ trackedLimit ∧
      ∀ m ∈ ((new 5000).after burst).tracked, ∃ c ∈ (new 5000).calls burst,
        c.message = m ∧ c.decision.isSome = true ∧ c.time ≤ 64 ∧ 64 - c.time < 5000 := by
  have hsorted : burst.Pairwise fun a b => a.2 ≤ b.2 := by decide +kernel
  have hsplit : burst = burst.dropLast ++ ("64", 64) :: [] := by decide +kernel
  have hmany : ¬((new 5000).after burst).tracked.length ≤ trackedLimit := by decide +kernel
  obtain ⟨-, -, hbound, -⟩ := tracked_few_or_recent 5000 burst hsorted _ _ _ _ hsplit
  rw [← hsplit] at hbound
  exact ⟨hsorted, hsplit, hmany, hbound.resolve_left hmany⟩

end EnvScout.Log.RepeatFilter
