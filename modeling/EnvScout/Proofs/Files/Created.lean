import EnvScout.Files.Edit
import EnvScout.Proofs.Files.Landing

/-!
What a new file changes. A file written at a free name is the one thing that is new in the tree, so
a walk ends where it ended before, unless it came to that very name: then it finds the file. A path
that led nowhere leads at most to the new file.
-/

namespace EnvScout

namespace Node

theorem lookup_setChild (children : List (String × Node)) (name other : String) (node : Node) :
    (setChild children name node).lookup other =
      if other = name then some node else children.lookup other := by
  induction children with
  | nil => exact lookup_cons_eq _ _ _
  | cons child rest ih =>
      rw [setChild]
      by_cases hchild : child.1 = name
      · rw [if_pos hchild, lookup_cons_eq, lookup_cons_eq, hchild]
        by_cases h : other = name <;> simp [h]
      · rw [if_neg hchild, lookup_cons_eq, lookup_cons_eq, ih]
        by_cases h : other = name
        · rw [if_neg fun heq => hchild (heq.symm.trans h), if_pos h, if_pos h]
        · rw [if_neg h, if_neg h]

theorem at?_cons_of_directory (children : List (String × Node)) (name : String)
    (rest : List String) :
    (Node.directory children).at? (name :: rest) =
      (children.lookup name).bind fun next => next.at? rest := by
  rw [at?, child?]
  cases children.lookup name <;> rfl

/-- Nothing is below the node. -/
def Bare (node : Node) : Prop :=
  ∀ name, node.child? name = none

theorem Bare.at?_cons {node : Node} (h : node.Bare) (name : String) (rest : List String) :
    node.at? (name :: rest) = none := by
  rw [at?, h name]

theorem put_of_vacant {children : List (String × Node)} {name : String}
    (h : children.lookup name = none) (new : Node) :
    (Node.directory children).put [name] new = .directory (setChild children name new) := by
  simp [put, h]

theorem put_of_child {children : List (String × Node)} {name : String} {next : Node}
    (h : children.lookup name = some next) (rest : List String) (new : Node) :
    (Node.directory children).put (name :: rest) new =
      .directory (setChild children name (next.put rest new)) := by
  simp [put, h]

theorem bare_file (content : ByteArray) (executable : Bool) : (file content executable).Bare :=
  fun _ => rfl

theorem bare_empty : empty.Bare :=
  fun _ => rfl

/-- After a node with nothing below it is put at a free name, that name has the node and all others
are as they were. -/
theorem shape_at?_put {node new : Node} {dir : List String} {name : String}
    {children : List (String × Node)} (hdir : node.at? dir = some (.directory children))
    (hvacant : children.lookup name = none) (hnew : new.Bare) (names : List String) :
    ((node.put (dir ++ [name]) new).at? names).map shape =
      if names = dir ++ [name] then some new.shape else (node.at? names).map shape := by
  induction dir generalizing node names with
  | nil =>
      cases hdir
      rw [List.nil_append, put_of_vacant hvacant]
      cases names with
      | nil => rfl
      | cons first rest =>
          rw [at?_cons_of_directory, at?_cons_of_directory, lookup_setChild]
          by_cases hfirst : first = name
          · rw [if_pos hfirst, hfirst, hvacant, Option.bind_some]
            cases rest with
            | nil => rw [if_pos rfl]; rfl
            | cons next rest => rw [hnew.at?_cons, if_neg (by simp)]; rfl
          · rw [if_neg hfirst, if_neg fun heq => hfirst (List.cons.inj heq).1]
  | cons top dir ih =>
      cases node with
      | directory siblings =>
          rw [at?_cons_of_directory] at hdir
          obtain ⟨next, hnext, hdir⟩ := Option.bind_eq_some_iff.mp hdir
          rw [List.cons_append, put_of_child hnext]
          cases names with
          | nil => rfl
          | cons first rest =>
              rw [at?_cons_of_directory, at?_cons_of_directory, lookup_setChild]
              by_cases hfirst : first = top
              · rw [if_pos hfirst, hfirst, hnext, Option.bind_some, Option.bind_some, ih hdir]
                simp
              · rw [if_neg hfirst, if_neg fun heq => hfirst (List.cons.inj heq).1]
      | _ => cases hdir

end Node

namespace FileSystem

/-- A file system with a new file in it, at a name that was free in a directory. -/
structure Gains (files saved : FileSystem) (dir : List String) (name : String) : Prop where
  holder : files.shape? dir = some .directory
  vacant : files.shape? (dir ++ [name]) = none
  file : saved.shape? (dir ++ [name]) = some .file
  other : ∀ names, names ≠ dir ++ [name] → saved.shape? names = files.shape? names

variable {files saved : FileSystem} {cwd dir : List String} {name : String} {p q : Path}

theorem shape?_put (h : files.Bears (.vacant dir name)) {new : Node} (hnew : new.Bare)
    (names : List String) :
    (files.put (dir ++ [name]) new).shape? names =
      if names = dir ++ [name] then some new.shape else files.shape? names := by
  obtain ⟨hdir, hvacant⟩ := h
  obtain ⟨children, hchildren⟩ := entry?_of_directory hdir
  have hname : children.lookup name = none := by
    rw [shape?, entry?_concat name hchildren, Option.map_eq_none_iff] at hvacant
    exact hvacant
  exact Node.shape_at?_put hchildren hname hnew names

theorem gains_of_put (h : files.Bears (.vacant dir name)) (content : ByteArray)
    (executable : Bool) :
    files.Gains (files.put (dir ++ [name]) (.file content executable)) dir name := by
  have hput := shape?_put h (Node.bare_file content executable)
  exact ⟨h.1, h.2, (hput _).trans (if_pos rfl), fun names hne => (hput names).trans (if_neg hne)⟩

/-- Writing where nothing is makes a new file at the free name. -/
theorem gains_of_write {content : ByteArray} {executable : Bool}
    (hmissing : files.exists? cwd p = false)
    (hsaved : files.write cwd p content executable = .ok saved) :
    ∃ dir name, files.land cwd p = .ok (.vacant dir name) ∧ files.Gains saved dir name := by
  rw [write] at hsaved
  split at hsaved
  · cases hsaved
  · rename_i dir name hland
    split at hsaved
    · cases hsaved
    cases hsaved
    exact ⟨dir, name, hland, gains_of_put (bears_of_land hland) content executable⟩
  · rename_i names hland
    rw [exists?_of_locate (locate_eq_ok_iff.mpr hland)] at hmissing
    cases hmissing

/-- How the end of a walk carries over when a free name gets a file: what came to that name finds
the file, and everything else ends as before, a failure in a failure. -/
inductive CarriesOver (dir : List String) (name : String) :
    Except FileError Landing → Except FileError Landing → Prop where
  | found (names : List String) : CarriesOver dir name (.ok (.found names)) (.ok (.found names))
  | filled : CarriesOver dir name (.ok (.vacant dir name)) (.ok (.found (dir ++ [name])))
  | vacant {other : List String} {free : String} (h : other ++ [free] ≠ dir ++ [name]) :
      CarriesOver dir name (.ok (.vacant other free)) (.ok (.vacant other free))
  | error (e e' : FileError) : CarriesOver dir name (.error e) (.error e')

/-- A walk into the new file itself fails, as it failed when the file was not there. -/
theorem Gains.walk_from_file (h : files.Gains saved dir name) {piece : String}
    {rest : List String} (jump jump' : List String → List String → Except FileError Landing) :
    CarriesOver dir name (files.walk jump (dir ++ [name]) (piece :: rest))
      (saved.walk jump' (dir ++ [name]) (piece :: rest)) := by
  rw [walk_cons, walk_cons, h.vacant, h.file]
  exact .error _ _

theorem Gains.walk (h : files.Gains saved dir name)
    {jump jump' : List String → List String → Except FileError Landing}
    (hjump : ∀ start more, CarriesOver dir name (jump start more) (jump' start more))
    (here pieces : List String) :
    CarriesOver dir name (files.walk jump here pieces) (saved.walk jump' here pieces) := by
  induction pieces generalizing here with
  | nil => exact .found here
  | cons piece rest ih =>
      by_cases hhere : here = dir ++ [name]
      · rw [hhere]
        exact h.walk_from_file jump jump'
      rw [walk_cons, walk_cons, h.other here hhere]
      split
      · split
        · exact ih here
        split
        · exact ih _
        split
        · exact .error _ _
        by_cases hnext : here ++ [piece] = dir ++ [name]
        · -- The walk has come to the new name; only a path that ends there finds the file.
          rw [hnext, h.vacant, h.file]
          obtain ⟨rfl, hpiece⟩ := List.append_inj' hnext rfl
          cases hpiece
          cases rest with
          | nil => exact .filled
          | cons next rest =>
              dsimp only
              rw [walk_cons, h.file]
              exact .error _ _
        · rw [h.other _ hnext]
          split
          · exact hjump _ _
          · exact ih _
          · split
            · exact .vacant hnext
            · exact .error _ _
      · exact .error _ _
      · exact .error _ _

theorem Gains.follow (h : files.Gains saved dir name) (links : Nat) (here pieces : List String) :
    CarriesOver dir name (files.follow links here pieces) (saved.follow links here pieces) := by
  induction links generalizing here pieces with
  | zero => exact h.walk (fun _ _ => .error _ _) here pieces
  | succ links ih => exact h.walk ih here pieces

theorem Gains.land (h : files.Gains saved dir name) (cwd : List String) (q : Path) :
    CarriesOver dir name (files.land cwd q) (saved.land cwd q) := by
  unfold FileSystem.land
  split
  · exact .error _ _
  split
  · exact .error _ _
  split
  · exact .error _ _
  · exact h.follow _ _ _

variable {names : List String} {resolved : Path}

theorem Gains.land_of_vacant (h : files.Gains saved dir name)
    (hq : files.land cwd q = .ok (.vacant dir name)) :
    saved.land cwd q = .ok (.found (dir ++ [name])) := by
  have hland := h.land cwd q
  rw [hq] at hland
  generalize saved.land cwd q = after at hland
  cases hland with
  | filled => rfl
  | vacant hne => exact absurd rfl hne

theorem Gains.locate_of_ok (h : files.Gains saved dir name) (hq : files.locate cwd q = .ok names) :
    saved.locate cwd q = .ok names := by
  rw [locate_eq_ok_iff] at hq ⊢
  have hland := h.land cwd q
  rw [hq] at hland
  generalize saved.land cwd q = after at hland
  cases hland
  rfl

/-- What is found now was found before, or it is the new file. -/
theorem Gains.locate_cases (h : files.Gains saved dir name)
    (hq : saved.locate cwd q = .ok names) :
    files.locate cwd q = .ok names ∨ names = dir ++ [name] := by
  rw [locate_eq_ok_iff] at hq ⊢
  have hland := h.land cwd q
  rw [hq] at hland
  generalize files.land cwd q = before at hland
  cases hland with
  | found => exact Or.inl rfl
  | filled => exact Or.inr rfl

theorem Gains.isDirectory_eq (h : files.Gains saved dir name) (cwd : List String) (q : Path) :
    saved.isDirectory cwd q = files.isDirectory cwd q := by
  rw [Bool.eq_iff_iff, isDirectory_iff, isDirectory_iff]
  constructor
  · rintro ⟨names, hnames, hshape⟩
    have hne : names ≠ dir ++ [name] := by
      rintro rfl
      rw [h.file] at hshape
      cases hshape
    rw [h.other names hne] at hshape
    exact ⟨names, (h.locate_cases hnames).resolve_right hne, hshape⟩
  · rintro ⟨names, hnames, hshape⟩
    have hne : names ≠ dir ++ [name] := by
      rintro rfl
      rw [h.vacant] at hshape
      cases hshape
    exact ⟨names, h.locate_of_ok hnames, (h.other names hne).trans hshape⟩

theorem Gains.canonical_of_ok (h : files.Gains saved dir name)
    (hq : files.canonical cwd q = .ok resolved) : saved.canonical cwd q = .ok resolved := by
  obtain ⟨names, hnames, hresolved⟩ := canonical_eq_ok_iff.mp hq
  exact canonical_eq_ok_iff.mpr ⟨names, h.locate_of_ok hnames, hresolved⟩

theorem Gains.canonical_cases (h : files.Gains saved dir name)
    (hq : saved.canonical cwd q = .ok resolved) :
    files.canonical cwd q = .ok resolved ∨
      resolved = Path.ofNames (dir ++ [name]) ∧ resolved.text.length ≤ 4095 := by
  obtain ⟨names, hnames, rfl, hshort⟩ := canonical_eq_ok_iff.mp hq
  rcases h.locate_cases hnames with hbefore | rfl
  · exact Or.inl (canonical_eq_ok_iff.mpr ⟨names, hbefore, rfl, hshort⟩)
  · exact Or.inr ⟨rfl, hshort⟩

end FileSystem

end EnvScout
