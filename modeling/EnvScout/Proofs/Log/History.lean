import EnvScout.Log.RepeatFilter
import EnvScout.Proofs.Lookup
import Mathlib.Data.List.DropRight

/-!
The calls made to a repeat filter, each with what came of it, and what the filter knows of a message
as told from these calls alone. A message is known from its last written copy on, with the copies
dropped since, until some call finds the table full and that copy out of its window. The filter is
taken apart into the purge, which forgets, and the decision after it, so that one account holds for
every rule of when the table is full, and for a filter that never forgets.
-/

namespace EnvScout.Log

/-- A message that was decided on: when it came, the decision, and how many messages were tracked
when it came. -/
structure Call where
  message : String
  time : Nat
  decision : Option Nat
  tracked : Nat
  deriving DecidableEq

namespace Call

def writes (message : String) (c : Call) : Bool :=
  c.message == message && c.decision.isSome

def drops (message : String) (c : Call) : Bool :=
  c.message == message && c.decision.isNone

/-- Whether a call makes the filter forget a message last written at `last`. -/
def purges (full : Nat → Bool) (window last : Nat) (c : Call) : Bool :=
  full c.tracked && decide (window ≤ c.time - last)

end Call

/-- When the last copy of a message was written. -/
def lastWritten? (message : String) (past : List Call) : Option Nat :=
  (past.reverse.find? (Call.writes message)).map Call.time

/-- The calls since the last copy of a message was written. -/
def sinceWritten (message : String) (past : List Call) : List Call :=
  past.rtakeWhile fun c => !c.writes message

/-- How many copies of a message were dropped since the last one was written. -/
def droppedSince (message : String) (past : List Call) : Nat :=
  (sinceWritten message past).countP (Call.drops message)

/-- What is known of a message after the calls `past`, where those in `later` may have made the
filter forget it. -/
def remembered (full : Nat → Bool) (window : Nat) (message : String) (past later : List Call) :
    Option Seen :=
  match lastWritten? message past with
  | none => none
  | some last =>
    if later.any (Call.purges full window last) then none
    else some ⟨last, droppedSince message past⟩

section Latest

variable {message : String} {past : List Call} {c : Call}

theorem lastWritten?_of_writes (h : c.writes message = true) :
    lastWritten? message (past ++ [c]) = some c.time := by
  simp [lastWritten?, h]

theorem lastWritten?_of_not_writes (h : c.writes message = false) :
    lastWritten? message (past ++ [c]) = lastWritten? message past := by
  simp [lastWritten?, h]

theorem sinceWritten_of_writes (h : c.writes message = true) :
    sinceWritten message (past ++ [c]) = [] := by
  rw [sinceWritten, List.rtakeWhile_concat_neg]
  simp [h]

theorem sinceWritten_of_not_writes (h : c.writes message = false) :
    sinceWritten message (past ++ [c]) = sinceWritten message past ++ [c] := by
  rw [sinceWritten, List.rtakeWhile_concat_pos]
  · rfl
  · simp [h]

theorem droppedSince_of_writes (h : c.writes message = true) :
    droppedSince message (past ++ [c]) = 0 := by
  simp [droppedSince, sinceWritten_of_writes h]

theorem droppedSince_of_drops (h : c.drops message = true) :
    droppedSince message (past ++ [c]) = droppedSince message past + 1 := by
  have hwrites : c.writes message = false := by
    simp only [Call.drops, Bool.and_eq_true, Option.isNone_iff_eq_none] at h
    simp [Call.writes, h.2]
  simp [droppedSince, sinceWritten_of_not_writes hwrites, h]

theorem droppedSince_of_ne (h : c.message ≠ message) :
    droppedSince message (past ++ [c]) = droppedSince message past := by
  have hwrites : c.writes message = false := by simp [Call.writes, h]
  have hdrops : c.drops message = false := by simp [Call.drops, h]
  simp [droppedSince, sinceWritten_of_not_writes hwrites, hdrops]

theorem mem_sinceWritten (h : c ∈ sinceWritten message past) : c ∈ past :=
  (List.rtakeWhile_suffix _ _).subset h

theorem writes_of_lastWritten? {last : Nat} (h : lastWritten? message past = some last) :
    ∃ c ∈ past, c.writes message = true ∧ c.time = last := by
  obtain ⟨c, hfind, htime⟩ := Option.map_eq_some_iff.mp h
  exact ⟨c, by simpa using List.mem_of_find?_eq_some hfind, List.find?_some hfind, htime⟩

theorem lastWritten?_eq_none_iff :
    lastWritten? message past = none ↔ ∀ c ∈ past, c.writes message = false := by
  simp [lastWritten?]

/-- Where times do not go back, no copy was written after the last one. -/
theorem le_lastWritten? (hpast : past.Pairwise fun a b => a.time ≤ b.time) (hmem : c ∈ past)
    (hwrites : c.writes message = true) :
    ∃ last, lastWritten? message past = some last ∧ c.time ≤ last := by
  induction past using List.reverseRecOn with
  | nil => cases hmem
  | append_singleton past latest ih =>
      obtain ⟨hrest, -, hlatest⟩ := List.pairwise_append.mp hpast
      cases hw : latest.writes message with
      | true =>
          refine ⟨latest.time, lastWritten?_of_writes hw, ?_⟩
          rcases List.mem_append.mp hmem with h | h
          · exact hlatest c h latest (List.mem_singleton.mpr rfl)
          · rw [List.mem_singleton.mp h]
      | false =>
          rw [lastWritten?_of_not_writes hw]
          rcases List.mem_append.mp hmem with h | h
          · exact ih hrest h
          · rw [List.mem_singleton.mp h, hw] at hwrites
            cases hwrites

end Latest

namespace RepeatFilter

/-- Forgets what is out of its window, when the table counts as full. -/
def purgeWhen (full : Nat → Bool) (filter : RepeatFilter) (now : Nat) : RepeatFilter :=
  if full filter.seen.length then
    { filter with seen := filter.seen.filter fun entry => isRecent filter.window now entry.2 }
  else filter

/-- The decision of a filter that never forgets. -/
def decideKeeping (filter : RepeatFilter) (message : String) (now : Nat) :
    Option Nat × RepeatFilter :=
  match filter.seen.lookup message with
  | some seen =>
    if isRecent filter.window now seen then
      (none, filter.track message ⟨seen.last, seen.dropped + 1⟩)
    else (some seen.dropped, filter.track message ⟨now, 0⟩)
  | none => (some 0, filter.track message ⟨now, 0⟩)

def decideWhen (full : Nat → Bool) (filter : RepeatFilter) (message : String) (now : Nat) :
    Option Nat × RepeatFilter :=
  (filter.purgeWhen full now).decideKeeping message now

def atLimit (tracked : Nat) : Bool :=
  trackedLimit ≤ tracked

def never (_ : Nat) : Bool :=
  false

theorem decideWhen_atLimit : decideWhen atLimit = decide := by
  funext filter message now
  have hpurge : filter.purgeWhen atLimit now = filter.purge now := by
    simp [purgeWhen, purge, atLimit]
  rw [decideWhen, hpurge]
  rfl

theorem decideWhen_never : decideWhen never = decideKeeping := rfl

/-- The calls that are made one after the other, decided by `step`. -/
def callsBy (step : RepeatFilter → String → Nat → Option Nat × RepeatFilter) :
    RepeatFilter → List (String × Nat) → List Call
  | _, [] => []
  | filter, (message, now) :: rest =>
    ⟨message, now, (step filter message now).1, filter.seen.length⟩ ::
      callsBy step (step filter message now).2 rest

/-- The calls to a filter. -/
def calls (filter : RepeatFilter) (messages : List (String × Nat)) : List Call :=
  filter.callsBy decide messages

/-- The same calls to a filter that never forgets. -/
def callsKeeping (filter : RepeatFilter) (messages : List (String × Nat)) : List Call :=
  filter.callsBy decideKeeping messages

/-- The decisions of the calls are those of a run. -/
theorem map_decision_calls (filter : RepeatFilter) (messages : List (String × Nat)) :
    (filter.calls messages).map Call.decision = (filter.run messages).map Prod.fst := by
  induction messages generalizing filter with
  | nil => rfl
  | cons first rest ih => exact congrArg _ (ih _)

theorem map_message_time_callsBy
    (step : RepeatFilter → String → Nat → Option Nat × RepeatFilter) (filter : RepeatFilter)
    (messages : List (String × Nat)) :
    (filter.callsBy step messages).map (fun c => (c.message, c.time)) = messages := by
  induction messages generalizing filter with
  | nil => rfl
  | cons first rest ih => exact congrArg _ (ih _)

/-! The table of a filter, read by looking a message up. -/

theorem lookup_setSeen (message other : String) (seen : Seen) (entries : List (String × Seen)) :
    (setSeen message seen entries).lookup other =
      if other = message then some seen else entries.lookup other := by
  induction entries with
  | nil => exact lookup_cons_eq _ _ _
  | cons entry rest ih =>
      rw [setSeen]
      by_cases hentry : entry.1 = message
      · rw [if_pos hentry, lookup_cons_eq, lookup_cons_eq, hentry]
        by_cases h : other = message <;> simp [h]
      · rw [if_neg hentry, lookup_cons_eq, lookup_cons_eq, ih]
        by_cases h : other = message
        · rw [if_neg fun heq => hentry (heq.symm.trans h), if_pos h, if_pos h]
        · rw [if_neg h, if_neg h]

theorem mem_setSeen {message : String} {seen : Seen} {entry : String × Seen}
    {entries : List (String × Seen)} (h : entry ∈ setSeen message seen entries) :
    entry = (message, seen) ∨ entry ∈ entries := by
  induction entries with
  | nil => exact Or.inl (List.mem_singleton.mp h)
  | cons first rest ih =>
      rw [setSeen] at h
      split at h
      · rcases List.mem_cons.mp h with heq | hmem
        · exact Or.inl heq
        · exact Or.inr (List.mem_cons_of_mem _ hmem)
      · rcases List.mem_cons.mp h with rfl | hmem
        · exact Or.inr List.mem_cons_self
        · exact (ih hmem).imp_right (List.mem_cons_of_mem _)

theorem mem_keys_setSeen {message other : String} {seen : Seen} {entries : List (String × Seen)}
    (h : other ∈ (setSeen message seen entries).map Prod.fst) :
    other = message ∨ other ∈ entries.map Prod.fst := by
  obtain ⟨entry, hentry, rfl⟩ := List.mem_map.mp h
  rcases mem_setSeen hentry with rfl | hmem
  · exact Or.inl rfl
  · exact Or.inr (List.mem_map_of_mem hmem)

theorem nodup_keys_setSeen (message : String) (seen : Seen) {entries : List (String × Seen)}
    (h : (entries.map Prod.fst).Nodup) :
    ((setSeen message seen entries).map Prod.fst).Nodup := by
  induction entries with
  | nil => simp [setSeen]
  | cons entry rest ih =>
      obtain ⟨hentry, hrest⟩ := List.nodup_cons.mp h
      rw [setSeen]
      split
      case isTrue heq => exact List.nodup_cons.mpr ⟨heq ▸ hentry, hrest⟩
      case isFalse hne =>
        refine List.nodup_cons.mpr ⟨fun hmem => ?_, ih hrest⟩
        rcases mem_keys_setSeen hmem with heq | hmem
        · exact hne heq
        · exact hentry hmem

theorem lookup_filter {entries : List (String × Seen)} (h : (entries.map Prod.fst).Nodup)
    (keep : Seen → Bool) (message : String) :
    (entries.filter fun entry => keep entry.2).lookup message =
      (entries.lookup message).filter keep := by
  induction entries with
  | nil => rfl
  | cons entry rest ih =>
      obtain ⟨hentry, hrest⟩ := List.nodup_cons.mp h
      rw [List.filter_cons, lookup_cons_eq]
      by_cases heq : message = entry.1
      · have hnone : rest.lookup message = none := by
          rw [List.lookup_eq_none_iff]
          intro other hother
          have hne : message ≠ other.1 := fun hsame =>
            hentry (heq ▸ hsame ▸ List.mem_map_of_mem hother)
          simpa using hne
        rw [if_pos heq, Option.filter_some]
        split
        · rw [lookup_cons_eq, if_pos heq]
        · rw [ih hrest, hnone, Option.filter_none]
      · rw [if_neg heq, ← ih hrest]
        split
        · rw [lookup_cons_eq, if_neg heq]
        · rfl

end RepeatFilter

section Remembered

variable {full : Nat → Bool} {window : Nat} {message : String} {past later : List Call} {c : Call}

theorem remembered_append (full : Nat → Bool) (window : Nat) (message : String)
    (past later : List Call) (c : Call) :
    remembered full window message past (later ++ [c]) =
      (remembered full window message past later).filter
        fun seen => !c.purges full window seen.last := by
  simp only [remembered]
  cases lastWritten? message past with
  | none => rfl
  | some last =>
      simp only [List.any_append, List.any_cons, List.any_nil, Bool.or_false]
      cases later.any (Call.purges full window last) with
      | true => rfl
      | false => cases hpurges : c.purges full window last <;> simp [Option.filter, hpurges]

theorem remembered_eq_some {seen : Seen}
    (h : remembered full window message past later = some seen) :
    lastWritten? message past = some seen.last ∧ droppedSince message past = seen.dropped ∧
      later.any (Call.purges full window seen.last) = false := by
  rw [remembered] at h
  split at h
  · cases h
  · rename_i last hlast
    split at h
    · cases h
    · rename_i hpurges
      cases h
      exact ⟨hlast, rfl, Bool.eq_false_iff.mpr hpurges⟩

theorem remembered_of_ne (h : c.message ≠ message) :
    remembered full window message (past ++ [c]) (sinceWritten message (past ++ [c])) =
      remembered full window message past (sinceWritten message past ++ [c]) := by
  have hwrites : c.writes message = false := by simp [Call.writes, h]
  rw [remembered, lastWritten?_of_not_writes hwrites, sinceWritten_of_not_writes hwrites,
    droppedSince_of_ne h, remembered]

theorem remembered_of_writes (h : c.writes message = true) :
    remembered full window message (past ++ [c]) (sinceWritten message (past ++ [c])) =
      some ⟨c.time, 0⟩ := by
  simp [remembered, lastWritten?_of_writes h, sinceWritten_of_writes h, droppedSince_of_writes h]

theorem remembered_of_drops (h : c.drops message = true) {seen : Seen}
    (hseen : remembered full window message past (sinceWritten message past ++ [c]) = some seen) :
    remembered full window message (past ++ [c]) (sinceWritten message (past ++ [c])) =
      some ⟨seen.last, seen.dropped + 1⟩ := by
  have hwrites : c.writes message = false := by
    simp only [Call.drops, Bool.and_eq_true, Option.isNone_iff_eq_none] at h
    simp [Call.writes, h.2]
  obtain ⟨hlast, hdropped, hpurges⟩ := remembered_eq_some hseen
  rw [remembered, lastWritten?_of_not_writes hwrites, sinceWritten_of_not_writes hwrites, hlast,
    droppedSince_of_drops h, hdropped]
  simp [hpurges]

end Remembered

namespace RepeatFilter

variable {full : Nat → Bool} {window : Nat} {past : List Call} {filter : RepeatFilter}

/-- The table of a filter holds what is remembered of the calls made to it, and nothing else. -/
structure Knows (full : Nat → Bool) (window : Nat) (past : List Call) (filter : RepeatFilter) :
    Prop where
  window_eq : filter.window = window
  nodup : (filter.seen.map Prod.fst).Nodup
  lookup_eq : ∀ message, filter.seen.lookup message =
    remembered full window message past (sinceWritten message past)

theorem knows_new (full : Nat → Bool) (window : Nat) : Knows full window [] (new window) where
  window_eq := rfl
  nodup := List.nodup_nil
  lookup_eq _ := rfl

theorem purgeWhen_window (full : Nat → Bool) (filter : RepeatFilter) (now : Nat) :
    (filter.purgeWhen full now).window = filter.window := by
  rw [purgeWhen]
  split <;> rfl

theorem Knows.nodup_purgeWhen (h : Knows full window past filter) (now : Nat) :
    ((filter.purgeWhen full now).seen.map Prod.fst).Nodup := by
  rw [purgeWhen]
  split
  · exact h.nodup.sublist (List.filter_sublist.map _)
  · exact h.nodup

/-- After the purge, a message is known unless this call was one to forget it. -/
theorem Knows.lookup_purgeWhen (h : Knows full window past filter) (message : String) (c : Call)
    (hc : c.tracked = filter.seen.length) :
    (filter.purgeWhen full c.time).seen.lookup message =
      remembered full window message past (sinceWritten message past ++ [c]) := by
  rw [remembered_append, ← h.lookup_eq, purgeWhen]
  cases hfull : full filter.seen.length with
  | true =>
      have hrecent : isRecent filter.window c.time =
          fun seen => !c.purges full window seen.last := by
        funext seen
        rw [Call.purges, hc, hfull, h.window_eq, isRecent, Bool.true_and, ← decide_not]
        exact decide_eq_decide.mpr Nat.not_le.symm
      rw [if_pos rfl, ← hrecent]
      exact lookup_filter h.nodup _ _
  | false =>
      have hkept : (fun seen : Seen => !c.purges full window seen.last) = fun _ => true := by
        funext seen
        rw [Call.purges, hc, hfull, Bool.false_and, Bool.not_false]
      rw [if_neg Bool.false_ne_true, hkept]
      cases filter.seen.lookup message <;> rfl

/-- What a filter decides on a message of which it knows `seen`. -/
def decisionOn (window now : Nat) : Option Seen → Option Nat
  | none => some 0
  | some seen => if isRecent window now seen then none else some seen.dropped

/-- The decision on a message, told from the calls before it. -/
theorem Knows.decision_eq (h : Knows full window past filter) (c : Call)
    (hc : c.tracked = filter.seen.length) :
    (filter.decideWhen full c.message c.time).1 =
      decisionOn window c.time
        (remembered full window c.message past (sinceWritten c.message past ++ [c])) := by
  rw [← h.lookup_purgeWhen c.message c hc, decideWhen, decideKeeping, purgeWhen_window, h.window_eq]
  cases (filter.purgeWhen full c.time).seen.lookup c.message with
  | none => rfl
  | some seen =>
      dsimp only [decisionOn]
      split <;> rfl

/-- One call keeps the table true to the calls made. -/
theorem Knows.step (h : Knows full window past filter) (c : Call)
    (hc : c.tracked = filter.seen.length)
    (hdecision : c.decision = (filter.decideWhen full c.message c.time).1) :
    Knows full window (past ++ [c]) (filter.decideWhen full c.message c.time).2 := by
  have hlookup := fun message => h.lookup_purgeWhen message c hc
  have hwindow := purgeWhen_window full filter c.time
  have hnodup := h.nodup_purgeWhen c.time
  rw [decideWhen] at hdecision ⊢
  generalize filter.purgeWhen full c.time = purged at hlookup hwindow hnodup hdecision ⊢
  -- Whatever row is set for this message, the other rows stay what the calls say of them.
  have htrack : ∀ seen, remembered full window c.message (past ++ [c])
      (sinceWritten c.message (past ++ [c])) = some seen →
      Knows full window (past ++ [c]) (purged.track c.message seen) := by
    intro seen hseen
    refine ⟨hwindow.trans h.window_eq, nodup_keys_setSeen _ _ hnodup, fun message => ?_⟩
    rw [track, lookup_setSeen]
    by_cases heq : message = c.message
    · rw [if_pos heq, heq, hseen]
    · rw [if_neg heq, hlookup, remembered_of_ne (Ne.symm heq)]
  have hwritten : c.decision.isSome = true →
      Knows full window (past ++ [c]) (purged.track c.message ⟨c.time, 0⟩) := fun hsome =>
    htrack _ (remembered_of_writes (by simp [Call.writes, hsome]))
  rw [decideKeeping] at hdecision ⊢
  cases hfound : purged.seen.lookup c.message with
  | none =>
      rw [hfound] at hdecision
      exact hwritten (by rw [hdecision]; rfl)
  | some seen =>
      rw [hfound] at hdecision
      dsimp only at hdecision ⊢
      by_cases hrecent : isRecent purged.window c.time seen = true
      · rw [if_pos hrecent] at hdecision ⊢
        refine htrack _ (remembered_of_drops (by simp [Call.drops, hdecision]) ?_)
        rw [← hlookup, hfound]
      · rw [if_neg hrecent] at hdecision ⊢
        exact hwritten (by rw [hdecision]; rfl)

/-- Along any run, each decision is the one told from the calls before it. -/
theorem Knows.decision_of_callsBy (h : Knows full window past filter)
    {messages : List (String × Nat)} {between : List Call} {c : Call} {rest : List Call}
    (hcalls : filter.callsBy (decideWhen full) messages = between ++ c :: rest) :
    c.decision = decisionOn window c.time
      (remembered full window c.message (past ++ between)
        (sinceWritten c.message (past ++ between) ++ [c])) := by
  induction between generalizing past filter messages with
  | nil =>
      cases messages with
      | nil => cases hcalls
      | cons first later =>
          obtain ⟨hc, -⟩ := List.cons.inj hcalls
          have hdecision : c.decision = (filter.decideWhen full c.message c.time).1 := by rw [← hc]
          rw [List.append_nil, hdecision]
          exact h.decision_eq c (by rw [← hc])
  | cons next between ih =>
      cases messages with
      | nil => cases hcalls
      | cons first later =>
          obtain ⟨rfl, hlater⟩ := List.cons.inj hcalls
          rw [List.append_cons]
          exact ih (h.step _ rfl rfl) hlater

theorem decision_of_calls {window : Nat} {messages : List (String × Nat)} {past : List Call}
    {c : Call} {rest : List Call} (hcalls : (new window).calls messages = past ++ c :: rest) :
    c.decision = decisionOn window c.time
      (remembered atLimit window c.message past (sinceWritten c.message past ++ [c])) := by
  rw [calls, ← decideWhen_atLimit] at hcalls
  exact (knows_new atLimit window).decision_of_callsBy hcalls

theorem decision_of_callsKeeping {window : Nat} {messages : List (String × Nat)}
    {past : List Call} {c : Call} {rest : List Call}
    (hcalls : (new window).callsKeeping messages = past ++ c :: rest) :
    c.decision = decisionOn window c.time
      (remembered never window c.message past (sinceWritten c.message past ++ [c])) := by
  rw [callsKeeping, ← decideWhen_never] at hcalls
  exact (knows_new never window).decision_of_callsBy hcalls

end RepeatFilter

end EnvScout.Log
