import EnvScout.Proofs.Files.Stepping
import EnvScout.Proofs.Path.Child

/-!
Walks that go on behind where others end. A walk along some pieces and then more goes on from where
the first ones lead, with fewer links left to follow; so whatever lies one name below a path is an
entry of the directory the path leads to, and is listed there if that can be listed at all, and
nothing at all is one name below a path that leads to no directory.
-/

namespace EnvScout

theorem Node.WellNamed.of_at? {node found : Node} {names : List String} (h : node.WellNamed)
    (hat : node.at? names = some found) : found.WellNamed := by
  induction names generalizing node with
  | nil =>
      cases hat
      exact h
  | cons first rest ih =>
      rw [at?] at hat
      split at hat
      · rename_i next hnext
        exact ih (h.child? hnext).2 hat
      · cases hat

namespace FileSystem

variable {files : FileSystem} {jump : List String → List String → Except FileError Landing}

/-- Walking on from where a walk has ended. -/
def goOn (files : FileSystem) (onward : List String → List String → Except FileError Landing)
    (rest : List String) : Except FileError Landing → Except FileError Landing
  | .ok (.found here) => files.walk onward here rest
  | .ok (.vacant _ _) => .error .notFound
  | .error e => .error e

/-- A way to walk for which more pieces behind some are walked from where those lead. -/
def GoesOn (files : FileSystem) (jump : List String → List String → Except FileError Landing) :
    Prop :=
  ∀ here front, ∃ onward, ∀ rest, rest ≠ [] →
    jump here (front ++ rest) = files.goOn onward rest (jump here front)

theorem goesOn_walk (hjump : files.GoesOn jump) : files.GoesOn (files.walk jump) := by
  intro here front
  induction front generalizing here with
  | nil => exact ⟨jump, fun rest _ => rfl⟩
  | cons piece front ih =>
      -- Only a link changes the way the walk goes on.
      simp only [List.cons_append, walk_cons]
      split
      · split
        · exact ih here
        split
        · exact ih here.dropLast
        split
        · exact ⟨jump, fun rest _ => rfl⟩
        split
        · rename_i target _
          simp only [← List.append_assoc]
          exact hjump _ _
        · exact ih _
        · refine ⟨jump, fun rest hrest => ?_⟩
          have hmore : (front ++ rest).isEmpty = false :=
            List.isEmpty_eq_false_iff.mpr (List.append_ne_nil_of_right_ne_nil front hrest)
          rw [hmore, if_neg Bool.false_ne_true]
          split <;> rfl
      · exact ⟨jump, fun rest _ => rfl⟩
      · exact ⟨jump, fun rest _ => rfl⟩

theorem goesOn_follow (links : Nat) : files.GoesOn (files.follow links) := by
  induction links with
  | zero => exact goesOn_walk fun _ _ => ⟨fun _ _ => .error .tooManyLinks, fun _ _ => rfl⟩
  | succ links ih => exact goesOn_walk ih

/-! One name further. -/

theorem walk_name {dir : List String} {name : String} (hdir : files.shape? dir = some .directory)
    (hvoid : Path.isVoid name = false) (hparent : name ≠ "..") :
    files.walk jump dir [name] =
      if name.length > 255 then .error .nameTooLong
      else match files.shape? (dir ++ [name]) with
        | some (.link target) => jump (if target.isAbsolute then [] else dir) (target.pieces ++ [])
        | some _ => .ok (.found (dir ++ [name]))
        | none => .ok (.vacant dir name) := by
  rw [walk_cons, hdir]
  dsimp only
  rw [hvoid, if_neg Bool.false_ne_true, if_neg hparent]
  rfl

variable {links : Nat} {here front dir found : List String} {name : String} {landing : Landing}

/-- Only from a directory a walk gets anywhere one name further. -/
theorem exists_directory_of_follow_concat
    (h : files.follow links here (front ++ [name]) = .ok landing) :
    ∃ dir, files.follow links here front = .ok (.found dir) ∧
      files.shape? dir = some .directory := by
  obtain ⟨onward, hwalk⟩ := goesOn_follow links here front
  rw [hwalk [name] (List.cons_ne_nil _ _), goOn.eq_def] at h
  split at h
  · rename_i dir hfront
    refine ⟨dir, hfront, ?_⟩
    rw [walk_cons] at h
    split at h
    · assumption
    · cases h
    · cases h
  · cases h
  · cases h

theorem exists_follow_concat (hvoid : Path.isVoid name = false) (hparent : name ≠ "..")
    (h : files.follow links here (front ++ [name]) = .ok (.found found)) :
    ∃ dir, files.follow links here front = .ok (.found dir) ∧
      files.shape? dir = some .directory ∧ files.shape? (dir ++ [name]) ≠ none ∧
      name.length ≤ 255 := by
  obtain ⟨dir, hfront, hdirectory⟩ := exists_directory_of_follow_concat h
  obtain ⟨onward, hwalk⟩ := goesOn_follow links here front
  rw [hwalk [name] (List.cons_ne_nil _ _), hfront, goOn, walk_name hdirectory hvoid hparent] at h
  split at h
  · cases h
  rename_i hshort
  refine ⟨dir, hfront, hdirectory, ?_, Nat.not_lt.mp hshort⟩
  intro hnone
  rw [hnone] at h
  cases h

theorem follow_concat_of_directory (hvoid : Path.isVoid name = false) (hparent : name ≠ "..")
    (hshort : name.length ≤ 255) (h : files.follow links here front = .ok (.found dir))
    (hdir : files.shape? dir = some .directory)
    (hname : files.shape? (dir ++ [name]) = some .directory) :
    files.follow links here (front ++ [name]) = .ok (.found (dir ++ [name])) := by
  obtain ⟨onward, hwalk⟩ := goesOn_follow links here front
  rw [hwalk [name] (List.cons_ne_nil _ _), h, goOn, walk_name hdir hvoid hparent,
    if_neg (Nat.not_lt.mpr hshort), hname]

/-- Below a directory a free name and a file are come to by themselves. -/
theorem follow_concat_writable (hname : Path.IsName name)
    (h : files.follow links here front = .ok (.found dir))
    (hdir : files.shape? dir = some .directory)
    (hentry : files.shape? (dir ++ [name]) = none ∨ files.shape? (dir ++ [name]) = some .file) :
    files.follow links here (front ++ [name]) = .ok (.vacant dir name) ∨
      files.follow links here (front ++ [name]) = .ok (.found (dir ++ [name])) ∧
        files.shape? (dir ++ [name]) = some .file := by
  obtain ⟨onward, hwalk⟩ := goesOn_follow links here front
  rw [hwalk [name] (List.cons_ne_nil _ _), h, goOn, walk_name hdir hname.notVoid hname.notParent,
    if_neg (Nat.not_lt.mpr hname.short)]
  rcases hentry with hfree | hfile
  · rw [hfree]
    exact .inl rfl
  · rw [hfile]
    exact .inr ⟨rfl, rfl⟩

/-! Looking up a path. -/

variable {cwd : List String} {p : Path}

/-- Where a path starts from, seen from the directory `cwd`. -/
def startOf (cwd : List String) (p : Path) : List String :=
  if p.isAbsolute then [] else cwd

/-- The path can be looked up at all. -/
structure Tellable (p : Path) : Prop where
  noNul : '\x00' ∉ p.text.toList
  nonempty : p.text ≠ ""
  short : p.text.length ≤ 4095

theorem land_eq_ok_iff :
    files.land cwd p = .ok landing ↔
      Tellable p ∧ files.follow linkLimit (startOf cwd p) p.pieces = .ok landing := by
  unfold land
  split
  · rename_i hnul
    exact iff_of_false nofun fun h => h.1.noNul (List.contains_iff_mem.mp hnul)
  rename_i hnul
  split
  · rename_i hempty
    exact iff_of_false nofun fun h => h.1.nonempty hempty
  rename_i hempty
  split
  · rename_i hlong
    exact iff_of_false nofun fun h => absurd h.1.short (Nat.not_le.mpr hlong)
  · rename_i hlong
    rw [← startOf, iff_and_self]
    exact fun _ => ⟨mt List.contains_iff_mem.mpr hnul, hempty, Nat.not_lt.mp hlong⟩

theorem locate_directory_iff (hdir : files.shape? dir = some .directory) :
    files.locate cwd p = .ok dir ↔
      Tellable p ∧ files.follow linkLimit (startOf cwd p) p.steps = .ok (.found dir) := by
  rw [locate_eq_ok_iff, land_eq_ok_iff, Path.steps_eq, ← follow_stepsOf_iff hdir]

theorem tellable_parent {q : Path} (h : Tellable p) (hq : p.parent? = some q) (hne : q.text ≠ "") :
    Tellable q := by
  obtain ⟨tail, htail⟩ := Path.toList_isPrefix_of_parent? hq
  have htext : p.text = q.text ++ String.ofList tail := by
    rw [← String.toList_inj, String.toList_append, String.toList_ofList, htail]
  have hshort := h.short
  rw [htext, String.length_append] at hshort
  refine ⟨fun hmem => h.noNul ?_, hne, by omega⟩
  rw [← htail]
  exact List.mem_append_left _ hmem

/-- The parent of a directory is one. -/
theorem isDirectory_of_parent? {q : Path} (hq : p.parent? = some q) (hne : q.text ≠ "")
    (h : files.isDirectory cwd p = true) : files.isDirectory cwd q = true := by
  obtain ⟨names, hlocate, hshape⟩ := isDirectory_iff.mp h
  obtain ⟨htell, hfollow⟩ := (locate_directory_iff hshape).mp hlocate
  rcases Path.steps_of_parent? hq with ⟨last, hsteps, -⟩ | ⟨-, hempty⟩
  · rw [hsteps, startOf, ← Path.isAbsolute_parent?_eq hq, ← startOf] at hfollow
    obtain ⟨dir, hdir, hdirectory⟩ := exists_directory_of_follow_concat hfollow
    have hlocated := (locate_directory_iff hdirectory).mpr ⟨tellable_parent htell hq hne, hdir⟩
    exact isDirectory_iff.mpr ⟨dir, hlocated, hdirectory⟩
  · exact absurd hempty hne

theorem tellable_child_iff (hp : p.text ≠ "") (hname : '/' ∉ name.toList) :
    Tellable (p.child name) ↔ Tellable p ∧ '\x00' ∉ name.toList ∧
      (p.child name).text.length ≤ 4095 := by
  have hnul : '\x00' ∈ (p.child name).text.toList ↔
      '\x00' ∈ p.text.toList ∨ '\x00' ∈ name.toList := by
    obtain ⟨x, htext | htext, hchild⟩ := Path.exists_child_eq hp hname
    · simp [hchild, htext]
    · simp [hchild, htext]
  obtain ⟨between, htext⟩ := Path.exists_text_child hp hname
  have hlonger : p.text.length ≤ (p.child name).text.length := by
    rw [htext, String.length_append, String.length_append]
    omega
  constructor
  · intro h
    exact ⟨⟨fun hmem => h.noNul (hnul.mpr (.inl hmem)), hp, hlonger.trans h.short⟩,
      fun hmem => h.noNul (hnul.mpr (.inr hmem)), h.short⟩
  · rintro ⟨h, hnoNul, hshort⟩
    exact ⟨fun hmem => (hnul.mp hmem).elim h.noNul hnoNul,
      Path.text_child_ne_of_text_ne hp hname, hshort⟩

/-- A name below a path is come to by the steps of the path. -/
theorem exists_pieces_child_steps (cwd : List String) (hp : p.text ≠ "")
    (hname : '/' ∉ name.toList) :
    ∃ front, (p.child name).pieces = front ++ [name] ∧ Path.stepsOf front = p.steps ∧
      startOf cwd (p.child name) = startOf cwd p := by
  obtain ⟨front, hpieces, hchild⟩ := Path.exists_pieces_child hp hname
  refine ⟨front, hchild, ?_, by rw [startOf, Path.isAbsolute_child_eq hp hname, startOf]⟩
  rw [Path.steps_eq]
  rcases hpieces with hpieces | hpieces
  · rw [hpieces]
  · rw [hpieces, Path.stepsOf_append, Path.stepsOf_cons_of_void rfl]
    exact (List.append_nil _).symm

/-- A path that leads nowhere, or to no directory, has nothing below it, not even free names. -/
theorem isDirectory_of_land_child (hp : p.text ≠ "") (hname : '/' ∉ name.toList)
    (h : files.land cwd (p.child name) = .ok landing) : files.isDirectory cwd p = true := by
  obtain ⟨htell, hfollow⟩ := land_eq_ok_iff.mp h
  obtain ⟨front, hpieces, hsteps, hstart⟩ := exists_pieces_child_steps cwd hp hname
  rw [hpieces, hstart] at hfollow
  obtain ⟨dir, hdir, hdirectory⟩ := exists_directory_of_follow_concat hfollow
  rw [follow_stepsOf_iff hdirectory, hsteps] at hdir
  have hp := ((tellable_child_iff hp hname).mp htell).1
  exact isDirectory_iff.mpr ⟨dir, (locate_directory_iff hdirectory).mpr ⟨hp, hdir⟩, hdirectory⟩

theorem land_child_of_directory (hname : Path.IsName name) (hchild : Tellable (p.child name))
    (hp : files.locate cwd p = .ok dir) (hdir : files.shape? dir = some .directory)
    (hentry : files.shape? (dir ++ [name]) = none ∨ files.shape? (dir ++ [name]) = some .file) :
    files.land cwd (p.child name) = .ok (.vacant dir name) ∨
      files.land cwd (p.child name) = .ok (.found (dir ++ [name])) ∧
        files.shape? (dir ++ [name]) = some .file := by
  obtain ⟨htell, hfollow⟩ := (locate_directory_iff hdir).mp hp
  obtain ⟨front, hpieces, hsteps, hstart⟩ :=
    exists_pieces_child_steps cwd htell.nonempty hname.noSeparator
  rw [← hsteps, ← follow_stepsOf_iff hdir, ← hstart] at hfollow
  rw [land_eq_ok_iff, land_eq_ok_iff, hpieces, and_iff_right hchild, and_iff_right hchild]
  exact follow_concat_writable hname hfollow hdir hentry

/-- What lies one name below a path lies in the directory the path leads to. -/
theorem exists_directory_of_locate_child (hp : p.text ≠ "") (hvoid : Path.isVoid name = false)
    (hparent : name ≠ "..") (hname : '/' ∉ name.toList)
    (h : files.locate cwd (p.child name) = .ok found) :
    Path.IsName name ∧ ∃ dir, files.locate cwd p = .ok dir ∧
      files.shape? dir = some .directory ∧ files.shape? (dir ++ [name]) ≠ none := by
  obtain ⟨hchild, hfollow⟩ := land_eq_ok_iff.mp (locate_eq_ok_iff.mp h)
  obtain ⟨htell, hnoNul, -⟩ := (tellable_child_iff hp hname).mp hchild
  obtain ⟨front, hpieces, hsteps, hstart⟩ := exists_pieces_child_steps cwd hp hname
  rw [hpieces, hstart] at hfollow
  obtain ⟨dir, hdir, hdirectory, hentry, hshort⟩ := exists_follow_concat hvoid hparent hfollow
  rw [follow_stepsOf_iff hdirectory, hsteps] at hdir
  exact ⟨⟨hvoid, hparent, hname, hnoNul, hshort⟩, dir,
    (locate_directory_iff hdirectory).mpr ⟨htell, hdir⟩, hdirectory, hentry⟩

theorem mem_children_of_shape? (hdirectory : files.shape? dir = some .directory)
    (hentry : files.shape? (dir ++ [name]) ≠ none) :
    ∃ children, files.entry? dir = some (.directory children) ∧ name ∈ children.map (·.1) := by
  obtain ⟨children, hchildren⟩ := entry?_of_directory hdirectory
  rw [shape?, entry?_concat name hchildren] at hentry
  obtain ⟨node, hnode⟩ := Option.ne_none_iff_exists'.mp (mt (congrArg (Option.map _)) hentry)
  exact ⟨children, hchildren, List.mem_map_of_mem (mem_of_lookup hnode)⟩

/-- The path can be listed, and the name is in its listing. -/
def Lists (files : FileSystem) (cwd : List String) (p : Path) (name : String) : Prop :=
  ∃ entries, files.listing cwd p = .ok entries ∧ name ∈ entries

theorem lists_iff {entries : List String} (h : files.listing cwd p = .ok entries) :
    files.Lists cwd p name ↔ name ∈ entries := by
  rw [Lists, h]
  simp

/-- What lies one name below a path is listed there, unless listing it is refused. -/
theorem lists_or_refused_of_locate_child (hp : p.text ≠ "") (hvoid : Path.isVoid name = false)
    (hparent : name ≠ "..") (hname : '/' ∉ name.toList)
    (h : files.locate cwd (p.child name) = .ok found) :
    files.Lists cwd p name ∨ files.listing cwd p = .error .permissionDenied := by
  obtain ⟨-, dir, hdir, hdirectory, hentry⟩ :=
    exists_directory_of_locate_child hp hvoid hparent hname h
  obtain ⟨children, hchildren, hmem⟩ := mem_children_of_shape? hdirectory hentry
  have hlisting : files.listing cwd p =
      if files.refuses .read dir then .error .permissionDenied else .ok (children.map (·.1)) := by
    rw [listing, hdir]
    dsimp only
    rw [hchildren]
  split at hlisting
  · exact .inr hlisting
  · exact .inl ⟨_, hlisting, hmem⟩

theorem WellNamed.isName_of_listing {entries : List String} (hfiles : files.WellNamed)
    (h : files.listing cwd p = .ok entries) : ∀ name ∈ entries, Path.IsName name := by
  unfold listing at h
  split at h
  · cases h
  rename_i names hlocate
  split at h
  · rename_i children hchildren
    split at h
    · cases h
    cases h
    intro name hname
    obtain ⟨child, hchild, rfl⟩ := List.mem_map.mp hname
    have hnode : Node.WellNamed (.directory children) := Node.WellNamed.of_at? hfiles hchildren
    cases hnode with
    | directory names nodes => exact names child hchild
  · cases h
  · cases h

end FileSystem

end EnvScout
