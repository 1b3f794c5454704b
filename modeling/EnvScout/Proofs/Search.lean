import EnvScout.Search

/-!
What a search comes to on given files: its value, the commands it runs and the files it leaves. A
search that reaches the outside through its host alone never goes by what has been recorded, so each
of the three is put together step by step, from the files that each step leaves to the next.
-/

namespace EnvScout

/-- A world followed by what happened from it on. -/
def World.andThen (world later : World) : World :=
  ⟨later.files, world.commands ++ later.commands, world.events ++ later.events⟩

theorem World.andThen_assoc (a b c : World) :
    (a.andThen b).andThen c = a.andThen (b.andThen c) := by
  simp [andThen, List.append_assoc]

theorem World.andThen_ofFiles (world : World) : world.andThen (.ofFiles world.files) = world := by
  simp [andThen, ofFiles]

/-- A host whose commands change no files. -/
def Host.LeavesFiles (host : Host) : Prop :=
  ∀ files command directory, (host.run files command directory).files = files

theorem Script.leavesFiles_host (script : Script) : script.host.LeavesFiles :=
  fun _ _ _ => rfl

namespace Search

variable {α β : Type}

/-- What a search gives on these files. -/
def value (s : Search α) (files : FileSystem) : α :=
  (s (World.ofFiles files)).1

/-- The commands a search runs on these files. -/
def ran (s : Search α) (files : FileSystem) : List Command :=
  (s (World.ofFiles files)).2.commands

/-- The files a search leaves of these. -/
def leaves (s : Search α) (files : FileSystem) : FileSystem :=
  (s (World.ofFiles files)).2.files

/-- The searches that look at the files and report, and do nothing else. -/
inductive Still : {α : Type} → Search α → Prop where
  | pure {α : Type} (a : α) : Still (pure a)
  | look {α : Type} (read : FileSystem → α) : Still (look read)
  | report (event : Log.Event) : Still (report event)
  | reportAll (events : List Log.Event) : Still (reportAll events)
  | bind {α β : Type} {s : Search α} {next : α → Search β} (first : Still s)
      (rest : ∀ a, Still (next a)) : Still (s >>= next)

/-- The searches that reach the outside through this host and change nothing otherwise. -/
inductive Through (host : Host) : {α : Type} → Search α → Prop where
  | pure {α : Type} (a : α) : Through host (pure a)
  | look {α : Type} (read : FileSystem → α) : Through host (look read)
  | report (event : Log.Event) : Through host (report event)
  | reportAll (events : List Log.Event) : Through host (reportAll events)
  | run (command : Command) (directory : Option Path) : Through host (run host command directory)
  | bind {α β : Type} {s : Search α} {next : α → Search β} (first : Through host s)
      (rest : ∀ a, Through host (next a)) : Through host (s >>= next)

variable {host : Host} {s : Search α} {next : α → Search β}

/-- Such a search adds to the record and does not go by it. -/
theorem Through.apply_eq (h : Through host s) (world : World) :
    s world = (s.value world.files, world.andThen (s (World.ofFiles world.files)).2) := by
  induction h generalizing world with
  | pure a =>
      show (a, world) = (a, world.andThen (World.ofFiles world.files))
      rw [World.andThen_ofFiles]
  | look read =>
      show (read world.files, world) =
        (read world.files, world.andThen (World.ofFiles world.files))
      rw [World.andThen_ofFiles]
  | report event => simp [value, World.andThen, World.ofFiles, Search.report]
  | reportAll events => simp [value, World.andThen, World.ofFiles, Search.reportAll]
  | run command directory => simp [value, World.andThen, World.ofFiles, Search.run]
  | @bind α β s next first rest ihfirst ihrest =>
      have hlater := ihrest (s.value world.files) (s (World.ofFiles world.files)).2
      have hvalue := congrArg Prod.fst hlater
      have hrecord := congrArg Prod.snd hlater
      calc (s >>= next) world
          = next (s world).1 (s world).2 := rfl
        _ = ((s >>= next).value world.files,
              world.andThen ((s >>= next) (World.ofFiles world.files)).2) := by
            rw [ihfirst world, ihrest]
            exact Prod.ext hvalue.symm
              ((World.andThen_assoc _ _ _).trans (congrArg world.andThen hrecord.symm))

theorem Through.value_eq (h : Through host s) (world : World) :
    (s world).1 = s.value world.files := by
  rw [h.apply_eq world]

theorem Through.files_eq (h : Through host s) (world : World) :
    (s world).2.files = s.leaves world.files := by
  rw [h.apply_eq world]
  rfl

theorem Through.commands_eq (h : Through host s) (world : World) :
    (s world).2.commands = world.commands ++ s.ran world.files := by
  rw [h.apply_eq world]
  rfl

theorem Through.leaves_eq (h : Through host s) (hhost : host.LeavesFiles) (files : FileSystem) :
    s.leaves files = files := by
  induction h generalizing files with
  | pure a => rfl
  | look read => rfl
  | report event => rfl
  | reportAll events => rfl
  | run command directory => exact hhost files command directory
  | @bind α β s next first rest ihfirst ihrest =>
      calc (s >>= next).leaves files
          = (next (s.value files)).leaves (s.leaves files) := (rest _).files_eq _
        _ = s.leaves files := ihrest _ _
        _ = files := ihfirst files

theorem Still.through (h : Still s) (host : Host) : Through host s := by
  induction h with
  | pure a => exact .pure a
  | look read => exact .look read
  | report event => exact .report event
  | reportAll events => exact .reportAll events
  | bind first rest ihfirst ihrest => exact .bind ihfirst ihrest

/-- A search that is still leaves everything but the reports as it is. -/
theorem Still.apply_eq (h : Still s) (world : World) :
    (s world).2.files = world.files ∧ (s world).2.commands = world.commands := by
  induction h generalizing world with
  | pure a => exact ⟨rfl, rfl⟩
  | look read => exact ⟨rfl, rfl⟩
  | report event => exact ⟨rfl, rfl⟩
  | reportAll events => exact ⟨rfl, rfl⟩
  | @bind α β s next first rest ihfirst ihrest =>
      obtain ⟨hfiles, hcommands⟩ := ihrest (s world).1 (s world).2
      exact ⟨hfiles.trans (ihfirst world).1, hcommands.trans (ihfirst world).2⟩

theorem Still.leaves_eq (h : Still s) (files : FileSystem) : s.leaves files = files :=
  (h.apply_eq _).1

theorem Still.ran_eq (h : Still s) (files : FileSystem) : s.ran files = [] :=
  (h.apply_eq _).2

/-! The parts of a search that is made of two. -/

section Bind

variable (host) (s : Search α) (files : FileSystem)

theorem value_bind (h : ∀ a, Through host (next a)) :
    (s >>= next).value files = (next (s.value files)).value (s.leaves files) :=
  (h _).value_eq _

theorem ran_bind (h : ∀ a, Through host (next a)) :
    (s >>= next).ran files = s.ran files ++ (next (s.value files)).ran (s.leaves files) :=
  (h _).commands_eq _

end Bind

theorem ran_bind_still (s : Search α) (files : FileSystem) (h : ∀ a, Still (next a)) :
    (s >>= next).ran files = s.ran files :=
  ((h _).apply_eq _).2

theorem ran_still_bind (h : Still s) (host : Host) (hnext : ∀ a, Through host (next a))
    (files : FileSystem) : (s >>= next).ran files = (next (s.value files)).ran files := by
  rw [ran_bind host s files hnext, h.ran_eq, h.leaves_eq, List.nil_append]

theorem value_still_bind (h : Still s) (host : Host) (hnext : ∀ a, Through host (next a))
    (files : FileSystem) : (s >>= next).value files = (next (s.value files)).value files := by
  rw [value_bind host s files hnext, h.leaves_eq]

/-! A search made once for each of some items. -/

section MapM

variable {make : α → Search β}

theorem still_mapM (h : ∀ item, Still (make item)) (items : List α) : Still (items.mapM make) := by
  induction items with
  | nil => exact .pure []
  | cons item rest ih =>
      rw [List.mapM_cons]
      exact .bind (h item) fun _ => .bind ih fun _ => .pure _

theorem value_mapM (h : ∀ item, Still (make item)) (host : Host) (items : List α)
    (files : FileSystem) :
    (items.mapM make).value files = items.map fun item => (make item).value files := by
  induction items with
  | nil => rfl
  | cons item rest ih =>
      have hrest : ∀ b, Still (do pure (b :: (← rest.mapM make))) := fun b =>
        .bind (still_mapM h rest) fun _ => .pure _
      rw [List.mapM_cons, value_still_bind (h item) host fun b => (hrest b).through host,
        value_still_bind (still_mapM h rest) host fun _ => .pure _, ih]
      rfl

end MapM

section Parts

variable (files : FileSystem)

@[simp] theorem value_pure (a : α) : (pure a : Search α).value files = a := rfl

@[simp] theorem ran_pure (a : α) : (pure a : Search α).ran files = [] := rfl

@[simp] theorem value_look_bind (read : FileSystem → α) (next : α → Search β) :
    (look read >>= next).value files = (next (read files)).value files := rfl

@[simp] theorem ran_look_bind (read : FileSystem → α) (next : α → Search β) :
    (look read >>= next).ran files = (next (read files)).ran files := rfl

@[simp] theorem ran_run (host : Host) (command : Command) (directory : Option Path) :
    (run host command directory).ran files = [command] := rfl

end Parts

section Gives

variable {first : α → Prop} {property : β → Prop}

/-- Whatever has happened before, what the search gives has the property. -/
def Gives (s : Search β) (property : β → Prop) : Prop :=
  ∀ world, property (s world).1

theorem gives_pure {b : β} (h : property b) : Gives (pure b) property :=
  fun _ => h

theorem gives_look {read : FileSystem → β} (h : ∀ files, property (read files)) :
    Gives (look read) property :=
  fun world => h world.files

theorem Gives.bind (h : Gives s first) (hnext : ∀ a, first a → Gives (next a) property) :
    Gives (s >>= next) property :=
  fun world => hnext _ (h world) _

theorem gives_bind (h : ∀ a, Gives (next a) property) : Gives (s >>= next) property :=
  fun _ => h _ _

end Gives

/-- A search that runs nothing leaves the files as they are, whatever commands would do. -/
theorem Through.leaves_of_ran_nil (h : Through host s) (files : FileSystem)
    (hran : s.ran files = []) : s.leaves files = files := by
  induction h generalizing files with
  | pure a => rfl
  | look read => rfl
  | report event => rfl
  | reportAll events => rfl
  | run command directory =>
      rw [ran_run] at hran
      cases hran
  | @bind α β s next first rest ihfirst ihrest =>
      rw [ran_bind host s files rest, List.append_eq_nil_iff] at hran
      obtain ⟨hfirst, hrest⟩ := hran
      calc (s >>= next).leaves files
          = (next (s.value files)).leaves (s.leaves files) := (rest _).files_eq _
        _ = s.leaves files := ihrest _ _ hrest
        _ = files := ihfirst files hfirst

/-! A search for the first item that gives something. -/

section FirstSome

variable {attempt : α → Search (Option β)} {item : α} {rest items : List α}

theorem through_firstSome (h : ∀ item, Through host (attempt item)) (items : List α) :
    Through host (firstSome attempt items) := by
  induction items with
  | nil => exact .pure none
  | cons item rest ih =>
      rw [firstSome]
      refine .bind (h item) fun found => ?_
      cases found with
      | none => exact ih
      | some result => exact .pure _

theorem value_firstSome_cons (h : ∀ item, Through host (attempt item)) (files : FileSystem) :
    (firstSome attempt (item :: rest)).value files =
      ((attempt item).value files).or
        ((firstSome attempt rest).value ((attempt item).leaves files)) := by
  rw [firstSome]
  refine (value_bind host (attempt item) files fun found => ?_).trans ?_
  · cases found with
    | none => exact through_firstSome h rest
    | some result => exact .pure _
  · cases (attempt item).value files <;> rfl

theorem ran_firstSome_cons (h : ∀ item, Through host (attempt item)) (files : FileSystem) :
    (firstSome attempt (item :: rest)).ran files =
      (attempt item).ran files ++ match (attempt item).value files with
        | some _ => []
        | none => (firstSome attempt rest).ran ((attempt item).leaves files) := by
  rw [firstSome]
  refine (ran_bind host (attempt item) files fun found => ?_).trans ?_
  · cases found with
    | none => exact through_firstSome h rest
    | some result => exact .pure _
  · cases (attempt item).value files <;> rfl

theorem firstSome_map {γ : Type} (attempt : α → Search (Option β)) (f : γ → α) (items : List γ) :
    firstSome attempt (items.map f) = firstSome (fun item => attempt (f item)) items := by
  induction items with
  | nil => rfl
  | cons item rest ih => rw [List.map_cons, firstSome, firstSome, ih]

/-- The files left when all the items have been tried. -/
def leavesAll (attempt : α → Search (Option β)) (items : List α) (files : FileSystem) :
    FileSystem :=
  items.foldl (fun files item => (attempt item).leaves files) files

theorem leavesAll_eq (h : ∀ item, Through host (attempt item)) (hhost : host.LeavesFiles)
    (items : List α) (files : FileSystem) : leavesAll attempt items files = files := by
  induction items with
  | nil => rfl
  | cons item rest ih =>
      rw [leavesAll, List.foldl_cons, (h item).leaves_eq hhost]
      exact ih

/-- The search is in vain when each item gives nothing on the files that those before it left. -/
theorem value_firstSome_eq_none_iff (h : ∀ item, Through host (attempt item))
    (files : FileSystem) :
    (firstSome attempt items).value files = none ↔
      ∀ before missed after, items = before ++ missed :: after →
        (attempt missed).value (leavesAll attempt before files) = none := by
  induction items generalizing files with
  | nil => simp [firstSome]
  | cons item rest ih =>
      rw [value_firstSome_cons h, Option.or_eq_none_iff, ih]
      constructor
      · rintro ⟨hitem, hrest⟩ before missed after hsplit
        cases before with
        | nil =>
            cases hsplit
            exact hitem
        | cons first before =>
            cases hsplit
            exact hrest before missed after rfl
      · intro hall
        exact ⟨hall [] item rest rfl, fun before missed after hsplit =>
          hall (item :: before) missed after (by rw [hsplit]; rfl)⟩

/-- The search gives what the first item gives that gives anything. -/
theorem value_firstSome_eq_some_iff (h : ∀ item, Through host (attempt item))
    (files : FileSystem) {result : β} :
    (firstSome attempt items).value files = some result ↔
      ∃ before found after, items = before ++ found :: after ∧
        (attempt found).value (leavesAll attempt before files) = some result ∧
        ∀ earlier missed later, before = earlier ++ missed :: later →
          (attempt missed).value (leavesAll attempt earlier files) = none := by
  induction items generalizing files with
  | nil => simp [firstSome]
  | cons item rest ih =>
      rw [value_firstSome_cons h, Option.or_eq_some_iff, ih]
      constructor
      · rintro (hitem | ⟨hitem, before, found, after, hsplit, hfound, hmissed⟩)
        · refine ⟨[], item, rest, rfl, hitem, ?_⟩
          intro earlier missed later hnil
          simp at hnil
        · refine ⟨item :: before, found, after, by rw [hsplit]; rfl, hfound, ?_⟩
          intro earlier missed later hbefore
          cases earlier with
          | nil =>
              cases hbefore
              exact hitem
          | cons first earlier =>
              cases hbefore
              exact hmissed earlier missed later rfl
      · rintro ⟨before, found, after, hsplit, hfound, hmissed⟩
        cases before with
        | nil =>
            cases hsplit
            exact Or.inl hfound
        | cons first before =>
            cases hsplit
            exact Or.inr ⟨hmissed [] item before rfl, before, found, after, rfl, hfound,
              fun earlier missed later hbefore =>
                hmissed (item :: earlier) missed later (by rw [hbefore]; rfl)⟩

/-- Where an item that gives nothing has run nothing either, a search that is in vain was so for
each item by itself, and has run nothing. -/
theorem firstSome_in_vain (h : ∀ item, Through host (attempt item))
    (hidle : ∀ item files, (attempt item).value files = none → (attempt item).ran files = [])
    (files : FileSystem) (hnone : (firstSome attempt items).value files = none) :
    (∀ item ∈ items, (attempt item).value files = none) ∧
      (firstSome attempt items).ran files = [] := by
  induction items with
  | nil => exact ⟨fun item hitem => absurd hitem List.not_mem_nil, rfl⟩
  | cons item rest ih =>
      rw [value_firstSome_cons h, Option.or_eq_none_iff] at hnone
      obtain ⟨hitem, hrest⟩ := hnone
      have hran := hidle item files hitem
      rw [(h item).leaves_of_ran_nil files hran] at hrest
      obtain ⟨hall, hranrest⟩ := ih hrest
      refine ⟨List.forall_mem_cons.mpr ⟨hitem, hall⟩, ?_⟩
      rw [ran_firstSome_cons h, hran, hitem, (h item).leaves_of_ran_nil files hran]
      exact hranrest

/-- There the search gives what the first item gives that gives anything by itself. -/
theorem value_firstSome_of_idle (h : ∀ item, Through host (attempt item))
    (hidle : ∀ item files, (attempt item).value files = none → (attempt item).ran files = [])
    (files : FileSystem) (items : List α) :
    (firstSome attempt items).value files =
      items.findSome? fun item => (attempt item).value files := by
  induction items with
  | nil => rfl
  | cons item rest ih =>
      rw [value_firstSome_cons h, List.findSome?_cons]
      cases hitem : (attempt item).value files with
      | some found => rfl
      | none =>
          rw [(h item).leaves_of_ran_nil files (hidle item files hitem), Option.none_or]
          exact ih

/-- The items up to the first that hits, itself included. -/
def upTo (hit : α → Bool) : List α → List α
  | [] => []
  | item :: rest => if hit item then [item] else item :: upTo hit rest

theorem upTo_isPrefix (hit : α → Bool) (items : List α) : upTo hit items <+: items := by
  induction items with
  | nil => exact List.prefix_rfl
  | cons item rest ih =>
      rw [upTo]
      split
      · exact ⟨rest, rfl⟩
      · exact (List.prefix_cons_inj item).mpr ih

/-- Where anything is found, the last of these items gives it. -/
theorem getLast?_upTo_bind (result : α → Option β) (items : List α) :
    (upTo (fun item => (result item).isSome) items).getLast?.bind result =
      items.findSome? result := by
  induction items with
  | nil => rfl
  | cons item rest ih =>
      rw [upTo, List.findSome?_cons]
      cases hitem : result item with
      | some found => simp [hitem]
      | none =>
          show (item :: upTo (fun item => (result item).isSome) rest).getLast?.bind result =
            rest.findSome? result
          rw [List.getLast?_cons, ← ih]
          cases (upTo (fun item => (result item).isSome) rest).getLast? with
          | none => simp [hitem]
          | some last => simp

theorem value_firstSome_eq_findSome? (h : ∀ item, Through host (attempt item))
    (hhost : host.LeavesFiles) (files : FileSystem) (items : List α) :
    (firstSome attempt items).value files =
      items.findSome? fun item => (attempt item).value files := by
  induction items with
  | nil => rfl
  | cons item rest ih =>
      rw [value_firstSome_cons h, (h item).leaves_eq hhost, ih, List.findSome?_cons]
      cases (attempt item).value files <;> rfl

/-- Where each item runs commands of its own and then some that go by what it gives, and those for
nothing are none, the latter are run at most once, at the very end. -/
theorem ran_firstSome (h : ∀ item, Through host (attempt item)) (hhost : host.LeavesFiles)
    (files : FileSystem) (own : α → List Command) (closing : Option β → List Command)
    (hnone : closing none = [])
    (hran : ∀ item, (attempt item).ran files = own item ++ closing ((attempt item).value files)) :
    (firstSome attempt items).ran files =
      (upTo (fun item => ((attempt item).value files).isSome) items).flatMap own ++
        closing ((firstSome attempt items).value files) := by
  induction items with
  | nil => simp [firstSome, upTo, hnone]
  | cons item rest ih =>
      rw [ran_firstSome_cons h, value_firstSome_cons h, (h item).leaves_eq hhost, hran, upTo]
      cases (attempt item).value files with
      | none => simp [hnone, ih]
      | some result => simp

/-- Where no item runs commands of its own, none are run but those that go by what is found. -/
theorem ran_firstSome_of_closing (h : ∀ item, Through host (attempt item))
    (hhost : host.LeavesFiles) (files : FileSystem) (closing : Option β → List Command)
    (hnone : closing none = [])
    (hran : ∀ item, (attempt item).ran files = closing ((attempt item).value files)) :
    (firstSome attempt items).ran files = closing ((firstSome attempt items).value files) := by
  rw [ran_firstSome h hhost files (fun _ => []) closing hnone hran, List.flatMap_eq_nil_iff.mpr,
    List.nil_append]
  exact fun _ _ => rfl

end FirstSome

end Search

end EnvScout
