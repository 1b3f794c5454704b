import EnvScout.Proofs.Files.Created
import EnvScout.Proofs.Files.Descent

/-!
Making directories. A directory that is made is the one thing that is new, so every path still leads
where it led, and the path it was made by leads to it. That holds for a whole chain of directories
too: whatever stands in its way, nothing is lost, and once it is made its path leads to a directory.
A file cannot be written there without it, and with it only a refusal is in the way.
-/

namespace EnvScout.FileSystem

variable {files later made : FileSystem} {cwd dir names : List String} {name : String} {p : Path}

/-- What was there is there later, and is the same as far as a walk can see. -/
def Grows (files later : FileSystem) : Prop :=
  ∀ names shape, files.shape? names = some shape → later.shape? names = some shape

theorem Grows.refl (files : FileSystem) : files.Grows files :=
  fun _ _ h => h

theorem Grows.trans {latest : FileSystem} (h : files.Grows later) (hlater : later.Grows latest) :
    files.Grows latest :=
  fun names shape hshape => hlater names shape (h names shape hshape)

/-- What a walk has found it finds later, if a link leads there later. -/
theorem Grows.walk (h : files.Grows later)
    {jump jump' : List String → List String → Except FileError Landing}
    (hjump : ∀ start more, jump start more = .ok (.found names) →
      jump' start more = .ok (.found names))
    {here pieces : List String} (hfound : files.walk jump here pieces = .ok (.found names)) :
    later.walk jump' here pieces = .ok (.found names) := by
  induction pieces generalizing here with
  | nil => exact hfound
  | cons piece rest ih =>
      rw [walk_cons] at hfound ⊢
      split at hfound
      · rename_i hdirectory
        rw [h _ _ hdirectory]
        dsimp only
        split at hfound
        · rename_i hvoid
          rw [if_pos hvoid]
          exact ih hfound
        rename_i hstep
        rw [if_neg hstep]
        split at hfound
        · rename_i hparent
          rw [if_pos hparent]
          exact ih hfound
        rename_i hname
        rw [if_neg hname]
        split at hfound
        · cases hfound
        rename_i hshort
        rw [if_neg hshort]
        split at hfound
        · rename_i target hlink
          rw [h _ _ hlink]
          exact hjump _ _ hfound
        · rename_i shape hnolink hentry
          rw [h _ _ hentry]
          cases shape with
          | link target => exact absurd rfl (hnolink target)
          | _ => exact ih hfound
        · split at hfound <;> cases hfound
      · cases hfound
      · cases hfound

theorem Grows.follow (h : files.Grows later) {links : Nat} {here pieces : List String}
    (hfound : files.follow links here pieces = .ok (.found names)) :
    later.follow links here pieces = .ok (.found names) := by
  induction links generalizing here pieces with
  | zero =>
      refine h.walk (fun start more hjump => ?_) hfound
      cases hjump
  | succ links ih => exact h.walk (fun _ _ => ih) hfound

theorem Grows.isDirectory (h : files.Grows later) (hp : files.isDirectory cwd p = true) :
    later.isDirectory cwd p = true := by
  obtain ⟨names, hlocate, hshape⟩ := isDirectory_iff.mp hp
  obtain ⟨htell, hfollow⟩ := (locate_directory_iff hshape).mp hlocate
  have hlater := h names _ hshape
  exact isDirectory_iff.mpr
    ⟨names, (locate_directory_iff hlater).mpr ⟨htell, h.follow hfollow⟩, hlater⟩

theorem grows_of_put (h : files.Bears (.vacant dir name)) {new : Node} (hnew : new.Bare) :
    files.Grows (files.put (dir ++ [name]) new) := by
  intro names shape hshape
  rw [shape?_put h hnew, if_neg, hshape]
  rintro rfl
  rw [h.2] at hshape
  cases hshape

/-! A single directory. -/

/-- The path ends in the name `name`, and what it has before that leads to the directory `dir`. -/
structure EndsIn (files : FileSystem) (cwd : List String) (p : Path) (dir : List String)
    (name : String) : Prop where
  tellable : Tellable p
  directory : files.shape? dir = some .directory
  way : ∃ front, p.steps = front ++ [name] ∧
    files.follow linkLimit (startOf cwd p) front = .ok (.found dir)
  notVoid : Path.isVoid name = false
  notParent : name ≠ ".."
  short : name.length ≤ 255

theorem endsIn_of_holder (h : files.holder cwd p = .ok (dir, name)) :
    files.EndsIn cwd p dir name := by
  rw [holder] at h
  split at h
  · split at h <;> cases h
  rename_i above habove
  split at h
  · cases h
  rename_i hnul
  split at h
  · cases h
  rename_i hlong
  split at h
  · cases h
  rename_i names hlocate
  split at h
  · rename_i children last hchildren hlast
    split at h
    · cases h
    rename_i hshort
    cases h
    have hdirectory : files.shape? dir = some .directory := by
      rw [shape?, hchildren]
      rfl
    obtain ⟨hsteps, hvoid, hparent⟩ := Path.steps_of_fileName? habove hlast
    have hne : p.text ≠ "" := by
      intro hempty
      obtain rfl : p = ⟨""⟩ := congrArg Path.mk hempty
      cases habove
    -- The parent of a lone name is empty; it is looked up as the dot, which has no steps either.
    have hfollow : files.follow linkLimit (startOf cwd above) above.steps = .ok (.found dir) := by
      have hway := ((locate_directory_iff hdirectory).mp hlocate).2
      split at hway
      · rename_i hempty
        obtain rfl : above = ⟨""⟩ := congrArg Path.mk hempty
        exact hway
      · exact hway
    rw [startOf, Path.isAbsolute_parent?_eq habove, ← startOf] at hfollow
    exact ⟨⟨fun hmem => hnul (List.contains_iff_mem.mpr hmem), hne, Nat.not_lt.mp hlong⟩,
      hdirectory, ⟨_, hsteps, hfollow⟩, hvoid, hparent, Nat.not_lt.mp hshort⟩
  · cases h
  · cases h
  · cases h

theorem EndsIn.isDirectory (h : files.EndsIn cwd p dir name) (hgrows : files.Grows later)
    (hnew : later.shape? (dir ++ [name]) = some .directory) : later.isDirectory cwd p = true := by
  obtain ⟨front, hsteps, hfront⟩ := h.way
  have hfollow := follow_concat_of_directory h.notVoid h.notParent h.short (hgrows.follow hfront)
    (hgrows _ _ h.directory) hnew
  rw [← hsteps] at hfollow
  exact isDirectory_iff.mpr
    ⟨_, (locate_directory_iff hnew).mpr ⟨h.tellable, hfollow⟩, hnew⟩

/-- Making a directory loses nothing, and its path leads to a directory then. -/
theorem made_of_makeDirectory (h : files.makeDirectory cwd p = .ok made) :
    files.Grows made ∧ made.isDirectory cwd p = true := by
  rw [makeDirectory] at h
  split at h
  · cases h
  rename_i dir name hholder
  split at h
  · cases h
  rename_i hfree
  split at h
  · cases h
  cases h
  have hends := endsIn_of_holder hholder
  have hvacant : files.Bears (.vacant dir name) :=
    ⟨hends.directory, by rw [shape?, hfree]; rfl⟩
  have hgrows := grows_of_put hvacant Node.bare_empty
  refine ⟨hgrows, hends.isDirectory hgrows ?_⟩
  rw [shape?_put hvacant Node.bare_empty, if_pos rfl]
  rfl

/-! A chain of directories. -/

/-- The files when a chain comes to its deepest path: as they were, or with what is above it
made. -/
def Prepared (files : FileSystem) (cwd : List String) (above : List Path)
    (prepared : FileSystem) : Prop :=
  prepared = files ∨ files.makeChain cwd above = (prepared, none)

/-- How a chain ends at its deepest path: a directory is made there, or there is one, or something
stands in the way there or above. -/
inductive Deepest (files : FileSystem) (cwd : List String) (p : Path) (above : List Path) :
    FileSystem × Option FileError → Prop where
  | made {prepared made : FileSystem} (hprepared : files.Prepared cwd above prepared)
      (h : prepared.makeDirectory cwd p = .ok made) : Deepest files cwd p above (made, none)
  | there {prepared : FileSystem} (hprepared : files.Prepared cwd above prepared)
      (h : prepared.isDirectory cwd p = true) : Deepest files cwd p above (prepared, none)
  | refused {prepared : FileSystem} (hprepared : files.Prepared cwd above prepared)
      (h : prepared.isDirectory cwd p = false) (e : FileError) :
      Deepest files cwd p above (prepared, some e)
  | blocked {left : FileSystem} {e : FileError} (hmissing : files.isDirectory cwd p = false)
      (h : files.makeChain cwd above = (left, some e)) : Deepest files cwd p above (left, some e)

theorem deepest_makeChain (files : FileSystem) (cwd : List String) (above : List Path)
    (hp : p.text ≠ "") : Deepest files cwd p above (files.makeChain cwd (p :: above)) := by
  rw [makeChain, if_neg hp]
  split
  · rename_i made hmade
    exact .made (.inl rfl) hmade
  rename_i e hrefused
  split
  · rename_i hthere
    exact .there (.inl rfl) hthere
  rename_i hmissing
  rw [Bool.not_eq_true] at hmissing
  split
  · split
    · rename_i left e habove
      exact .blocked hmissing habove
    · rename_i prepared habove
      split
      · rename_i made hmade
        exact .made (.inr habove) hmade
      · split
        · rename_i hthere
          exact .there (.inr habove) hthere
        · rename_i hagain
          exact .refused (.inr habove) (Bool.eq_false_iff.mpr hagain) _
  · exact .refused (.inl rfl) hmissing e

theorem grows_makeChain (files : FileSystem) (cwd : List String) (paths : List Path) :
    files.Grows (files.makeChain cwd paths).1 := by
  induction paths with
  | nil => exact .refl files
  | cons p above ih =>
      by_cases hp : p.text = ""
      · rw [makeChain, if_pos hp]
        exact .refl files
      have hprepared : ∀ prepared, files.Prepared cwd above prepared → files.Grows prepared := by
        rintro prepared (rfl | habove)
        · exact .refl _
        · rwa [habove] at ih
      have hdeepest := deepest_makeChain files cwd above hp
      generalize files.makeChain cwd (p :: above) = ended at hdeepest
      cases hdeepest with
      | made hbefore hmade => exact (hprepared _ hbefore).trans (made_of_makeDirectory hmade).1
      | there hbefore h => exact hprepared _ hbefore
      | refused hbefore h e => exact hprepared _ hbefore
      | blocked hmissing h => rwa [h] at ih

theorem isDirectory_makeChain_cons_iff {above : List Path} (hp : p.text ≠ "")
    (habove : ∀ left e, files.makeChain cwd above = (left, some e) →
      files.isDirectory cwd p = false → left.isDirectory cwd p = false) :
    (files.makeChain cwd (p :: above)).1.isDirectory cwd p = true ↔
      (files.makeChain cwd (p :: above)).2 = none := by
  have hdeepest := deepest_makeChain files cwd above hp
  generalize files.makeChain cwd (p :: above) = ended at hdeepest
  cases hdeepest with
  | made hbefore hmade => exact iff_of_true (made_of_makeDirectory hmade).2 rfl
  | there hbefore h => exact iff_of_true h rfl
  | refused hbefore h e => exact iff_of_false (Bool.eq_false_iff.mp h) nofun
  | blocked hmissing h =>
      exact iff_of_false (Bool.eq_false_iff.mp (habove _ _ h hmissing)) nofun

theorem makeChain_of_empty (n : Nat) (hp : p.text = "") :
    files.makeChain cwd (p.upward n) = (files, none) := by
  cases n with
  | zero => rw [Path.upward, makeChain, if_pos hp]
  | succ n => rw [Path.upward, makeChain, if_pos hp]

/-- Where nothing stands in the way of a chain, its path leads to a directory then, and only there:
where something stands in the way further up, the parent is no directory, so the path is none. -/
theorem isDirectory_makeChain_iff (n : Nat) (hp : p.text ≠ "") :
    (files.makeChain cwd (p.upward n)).1.isDirectory cwd p = true ↔
      (files.makeChain cwd (p.upward n)).2 = none := by
  have htop : ∀ (p : Path) left e, files.makeChain cwd [] = (left, some e) →
      files.isDirectory cwd p = false → left.isDirectory cwd p = false := by
    rintro p left e ⟨⟩ hmissing
    exact hmissing
  induction n generalizing p with
  | zero => exact isDirectory_makeChain_cons_iff hp (htop p)
  | succ n ih =>
      rw [Path.upward]
      refine isDirectory_makeChain_cons_iff hp ?_
      cases hq : p.parent? with
      | none => exact htop p
      | some q =>
          intro left e hblocked _
          rw [Bool.eq_false_iff]
          intro hdirectory
          by_cases hne : q.text = ""
          · rw [makeChain_of_empty n hne] at hblocked
            cases hblocked
          · have hparent := isDirectory_of_parent? hq hne hdirectory
            have hmade := ih hne
            rw [hblocked] at hmade
            cases hmade.mp hparent

theorem grows_makeDirectories (files : FileSystem) (cwd : List String) (p : Path) :
    files.Grows (files.makeDirectories cwd p).1 :=
  grows_makeChain files cwd p.ancestors

theorem isDirectory_makeDirectories_iff (files : FileSystem) (cwd : List String)
    (hp : p.text ≠ "") :
    (files.makeDirectories cwd p).1.isDirectory cwd p = true ↔
      (files.makeDirectories cwd p).2 = none :=
  isDirectory_makeChain_iff p.components.length hp

/-! Files in a directory. -/

/-- What is changed when a file of this name is written in a directory: the file where there is one,
and otherwise the directory. -/
def changedFor (files : FileSystem) (dir : List String) (name : String) : List String :=
  if files.shape? (dir ++ [name]) = none then dir else dir ++ [name]

theorem exists_eq_ok_unless_refused {refused : Bool} {saved : FileSystem} :
    (∃ left, (if refused then .error .permissionDenied else .ok saved :
      Except FileError FileSystem) = .ok left) ↔ refused = false := by
  cases refused <;> simp

/-- In a directory a file can be written by any name that is free or that of a file, unless it is
refused. -/
theorem exists_write_child_iff (hp : files.locate cwd p = .ok dir)
    (hdir : files.shape? dir = some .directory) (hname : Path.IsName name)
    (hshort : (p.child name).text.length ≤ 4095)
    (hentry : files.shape? (dir ++ [name]) = none ∨ files.shape? (dir ++ [name]) = some .file)
    (content : ByteArray) (executable : Bool) :
    (∃ saved, files.write cwd (p.child name) content executable = .ok saved) ↔
      files.refuses .write (files.changedFor dir name) = false := by
  have htell := ((locate_directory_iff hdir).mp hp).1
  have hchild := (tellable_child_iff htell.nonempty hname.noSeparator).mpr
    ⟨htell, hname.noNul, hshort⟩
  rw [write]
  rcases land_child_of_directory hname hchild hp hdir hentry with hfree | ⟨hfound, hfile⟩
  · have hvacant : files.shape? (dir ++ [name]) = none := (bears_of_land hfree).2
    rw [hfree, changedFor, if_pos hvacant]
    exact exists_eq_ok_unless_refused
  · obtain ⟨node, hnode, hshape⟩ := Option.map_eq_some_iff.mp hfile
    rw [hfound, changedFor, if_neg (hfile ▸ Option.some_ne_none _)]
    dsimp only
    rw [hnode]
    cases node with
    | file content executable => exact exists_eq_ok_unless_refused
    | _ => cases hshape

/-- A file is written only into a directory that is there. -/
theorem isDirectory_of_write_child {content : ByteArray} {executable : Bool} {saved : FileSystem}
    (hp : p.text ≠ "") (hname : '/' ∉ name.toList)
    (h : files.write cwd (p.child name) content executable = .ok saved) :
    files.isDirectory cwd p = true := by
  rw [write] at h
  split at h
  · cases h
  · rename_i hland
    exact isDirectory_of_land_child hp hname hland
  · rename_i hland
    exact isDirectory_of_land_child hp hname hland

end EnvScout.FileSystem
