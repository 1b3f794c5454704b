import EnvScout.Files.Lookup
import EnvScout.Proofs.Lookup
import EnvScout.Proofs.Path.Names

/-!
Where a walk ends. Of an entry a walk sees no more than its shape, so it is led by the shapes alone.
What it finds is there and is no link, and where it comes to a free name, the directory for it is
there and the name is not taken. The names of what is found lead back to it from the root, which
makes the canonical form of a path its own canonical form.
-/

namespace EnvScout

namespace Node

/-- What a walk sees of an entry. -/
inductive Shape where
  | file
  | link (target : Path)
  | directory
  deriving DecidableEq

def shape : Node → Shape
  | .file _ _ => .file
  | .link target => .link target
  | .directory _ => .directory

theorem at?_append (node : Node) (front rest : List String) :
    node.at? (front ++ rest) = (node.at? front).bind fun found => found.at? rest := by
  induction front generalizing node with
  | nil => rfl
  | cons name front ih =>
      rw [List.cons_append, at?, at?]
      cases node.child? name with
      | none => rfl
      | some next => exact ih next

theorem at?_singleton (node : Node) (name : String) : node.at? [name] = node.child? name := by
  rw [at?]
  cases node.child? name <;> rfl

/-- A tree in which every entry has a name that an entry can have. -/
inductive WellNamed : Node → Prop where
  | file (content : ByteArray) (executable : Bool) : WellNamed (.file content executable)
  | link (target : Path) : WellNamed (.link target)
  | directory {children : List (String × Node)}
      (names : ∀ child ∈ children, Path.IsName child.1)
      (nodes : ∀ child ∈ children, WellNamed child.2) : WellNamed (.directory children)

theorem WellNamed.nil : WellNamed (.directory []) :=
  .directory (fun _ h => absurd h List.not_mem_nil) fun _ h => absurd h List.not_mem_nil

theorem WellNamed.cons {name : String} {node : Node} {rest : List (String × Node)}
    (hname : Path.IsName name) (hnode : node.WellNamed) (hrest : WellNamed (.directory rest)) :
    WellNamed (.directory ((name, node) :: rest)) := by
  cases hrest with
  | directory names nodes =>
      exact .directory (List.forall_mem_cons.mpr ⟨hname, names⟩)
        (List.forall_mem_cons.mpr ⟨hnode, nodes⟩)

theorem WellNamed.child? {node next : Node} {name : String} (h : node.WellNamed)
    (hchild : node.child? name = some next) : Path.IsName name ∧ next.WellNamed := by
  cases h with
  | file content executable => cases hchild
  | link target => cases hchild
  | directory names nodes =>
      have hmem := mem_of_lookup hchild
      exact ⟨names _ hmem, nodes _ hmem⟩

theorem WellNamed.isName {node found : Node} {names : List String} (h : node.WellNamed)
    (hat : node.at? names = some found) : ∀ name ∈ names, Path.IsName name := by
  induction names generalizing node with
  | nil => exact fun name hname => absurd hname List.not_mem_nil
  | cons first rest ih =>
      rw [at?] at hat
      split at hat
      · rename_i next hnext
        obtain ⟨hfirst, hnode⟩ := h.child? hnext
        intro name hname
        rcases List.mem_cons.mp hname with rfl | hname
        · exact hfirst
        · exact ih hnode hat name hname
      · cases hat

end Node

namespace FileSystem

/-- The shape of what is at these names. -/
def shape? (files : FileSystem) (names : List String) : Option Node.Shape :=
  Option.map Node.shape <| files.entry? names

variable {files : FileSystem} {here names : List String}

theorem entry?_of_directory (h : files.shape? here = some .directory) :
    ∃ children, files.entry? here = some (.directory children) := by
  obtain ⟨node, hnode, hshape⟩ := Option.map_eq_some_iff.mp h
  cases node with
  | directory children => exact ⟨children, hnode⟩
  | _ => cases hshape

theorem entry?_concat {children : List (String × Node)} (name : String)
    (h : files.entry? here = some (.directory children)) :
    files.entry? (here ++ [name]) = children.lookup name := by
  unfold entry? at h ⊢
  rw [Node.at?_append, h]
  exact Node.at?_singleton _ _

/-- Whatever has something below it is a directory. -/
theorem directory_of_below (name : String) (rest : List String)
    (h : files.shape? (here ++ name :: rest) ≠ none) : files.shape? here = some .directory := by
  rw [shape?, entry?, Node.at?_append] at h
  rw [shape?, entry?]
  cases hnode : files.root.at? here with
  | none =>
      rw [hnode] at h
      exact absurd rfl h
  | some node =>
      rw [hnode] at h
      cases node with
      | directory children => rfl
      | _ => exact absurd rfl h

theorem directory_root_of_directory (h : files.shape? here = some .directory) :
    files.shape? [] = some .directory := by
  cases here with
  | nil => exact h
  | cons name rest =>
      refine directory_of_below name rest ?_
      rw [List.nil_append, h]
      exact Option.some_ne_none _

theorem directory_dropLast (h : files.shape? here = some .directory) :
    files.shape? here.dropLast = some .directory := by
  cases here using List.reverseRecOn with
  | nil => exact h
  | append_singleton front last =>
      rw [List.dropLast_concat]
      refine directory_of_below last [] ?_
      rw [h]
      exact Option.some_ne_none _

variable {jump : List String → List String → Except FileError Landing}

/-- One step of a walk, by the shapes it sees. -/
theorem walk_cons (files : FileSystem)
    (jump : List String → List String → Except FileError Landing) (here : List String)
    (piece : String) (rest : List String) :
    files.walk jump here (piece :: rest) =
      match files.shape? here with
      | some .directory =>
        if Path.isVoid piece then files.walk jump here rest
        else if piece = ".." then files.walk jump here.dropLast rest
        else if piece.length > 255 then .error .nameTooLong
        else match files.shape? (here ++ [piece]) with
          | some (.link target) =>
            jump (if target.isAbsolute then [] else here) (target.pieces ++ rest)
          | some _ => files.walk jump (here ++ [piece]) rest
          | none => if rest.isEmpty then .ok (.vacant here piece) else .error .notFound
      | some _ => .error .notADirectory
      | none => .error .notFound := by
  rw [walk]
  cases hnode : files.entry? here with
  | none => rw [shape?, hnode]; rfl
  | some node =>
      cases node with
      | file content executable => rw [shape?, hnode]; rfl
      | link target => rw [shape?, hnode]; rfl
      | directory children =>
          have hhere : files.shape? here = some .directory := by
            rw [shape?, hnode]
            rfl
          have hnext : files.shape? (here ++ [piece]) = (children.lookup piece).map Node.shape := by
            rw [shape?, entry?_concat piece hnode]
          rw [hhere, hnext]
          dsimp only
          cases children.lookup piece with
          | none => rfl
          | some next => cases next <;> rfl

/-- What a landing says about the tree: what is found is there and is no link, and a free name is
free in a directory that is there. -/
def Bears (files : FileSystem) : Landing → Prop
  | .found names => files.shape? [] = some .directory ∧
      ∃ shape, files.shape? names = some shape ∧ ∀ target, shape ≠ .link target
  | .vacant dir name =>
      files.shape? dir = some .directory ∧ files.shape? (dir ++ [name]) = none

theorem bears_of_directory (h : files.shape? here = some .directory) :
    files.Bears (.found here) :=
  ⟨directory_root_of_directory h, _, h, nofun⟩

/-- A walk keeps to what is there, if a link leads to what is there. -/
theorem bears_of_walk {pieces : List String} {landing : Landing}
    (hjump : ∀ start more, more ≠ [] → ∀ landing, jump start more = .ok landing →
      files.Bears landing)
    (hhere : pieces = [] → files.Bears (.found here))
    (h : files.walk jump here pieces = .ok landing) : files.Bears landing := by
  -- A walk goes on only from places it has seen; `hhere` is for the walk that has no piece at all.
  induction pieces generalizing here with
  | nil =>
      cases h
      exact hhere rfl
  | cons piece rest ih =>
      rw [walk_cons] at h
      split at h
      · rename_i hdirectory
        split at h
        · exact ih (fun _ => bears_of_directory hdirectory) h
        split at h
        · exact ih (fun _ => bears_of_directory (directory_dropLast hdirectory)) h
        split at h
        · cases h
        split at h
        · rename_i target _
          refine hjump _ _ ?_ landing h
          exact List.append_ne_nil_of_left_ne_nil (Path.pieces_ne_nil target) rest
        · rename_i shape hnolink hshape
          refine ih (fun _ => ⟨directory_root_of_directory hdirectory, shape, hshape, ?_⟩) h
          rintro target rfl
          exact hnolink target rfl
        · rename_i hnone
          split at h
          · cases h
            exact ⟨hdirectory, hnone⟩
          · cases h
      · cases h
      · cases h

theorem bears_of_follow {links : Nat} {pieces : List String} {landing : Landing}
    (hpieces : pieces ≠ []) (h : files.follow links here pieces = .ok landing) :
    files.Bears landing := by
  induction links generalizing here pieces landing with
  | zero =>
      refine bears_of_walk (fun start more hmore landing hland => ?_)
        (fun hnil => absurd hnil hpieces) h
      cases hland
  | succ links ih =>
      exact bears_of_walk (fun start more hmore landing => ih hmore)
        (fun hnil => absurd hnil hpieces) h

theorem bears_of_land {cwd : List String} {p : Path} {landing : Landing}
    (h : files.land cwd p = .ok landing) : files.Bears landing := by
  unfold land at h
  split at h
  · cases h
  split at h
  · cases h
  split at h
  · cases h
  · exact bears_of_follow (Path.pieces_ne_nil p) h

theorem locate_eq_ok_iff {cwd : List String} {p : Path} :
    files.locate cwd p = .ok names ↔ files.land cwd p = .ok (.found names) := by
  rw [locate]
  cases files.land cwd p with
  | error e => simp
  | ok landing => cases landing <;> simp

theorem bears_of_locate {cwd : List String} {p : Path} (h : files.locate cwd p = .ok names) :
    files.Bears (.found names) :=
  bears_of_land (locate_eq_ok_iff.mp h)

theorem exists_entry_of_locate {cwd : List String} {p : Path}
    (h : files.locate cwd p = .ok names) : ∃ node, files.entry? names = some node := by
  obtain ⟨_, shape, hshape, _⟩ := bears_of_locate h
  obtain ⟨node, hnode, _⟩ := Option.map_eq_some_iff.mp hshape
  exact ⟨node, hnode⟩

/-- What is found is there. -/
theorem exists?_of_locate {cwd : List String} {p : Path} (h : files.locate cwd p = .ok names) :
    files.exists? cwd p = true := by
  obtain ⟨node, hnode⟩ := exists_entry_of_locate h
  rw [exists?, node?, h]
  dsimp only
  rw [hnode]
  rfl

theorem shape_node?_iff {cwd : List String} {p : Path} {shape : Node.Shape} :
    (files.node? cwd p).map Node.shape = some shape ↔
      ∃ names, files.locate cwd p = .ok names ∧ files.shape? names = some shape := by
  rw [node?]
  cases files.locate cwd p with
  | error e => simp
  | ok names =>
      simp only [Except.ok.injEq, exists_eq_left']
      rfl

theorem isDirectory_iff {cwd : List String} {p : Path} :
    files.isDirectory cwd p = true ↔
      ∃ names, files.locate cwd p = .ok names ∧ files.shape? names = some .directory := by
  rw [← shape_node?_iff, isDirectory]
  cases files.node? cwd p with
  | none => simp
  | some node => cases node <;> simp [Node.shape]

theorem isFile_iff {cwd : List String} {p : Path} :
    files.isFile cwd p = true ↔
      ∃ names, files.locate cwd p = .ok names ∧ files.shape? names = some .file := by
  rw [← shape_node?_iff, isFile]
  cases files.node? cwd p with
  | none => simp
  | some node => cases node <;> simp [Node.shape]

/-- A walk through names of directories goes on behind them. -/
theorem walk_append_of_directory {rest : List String} (hnames : ∀ name ∈ names, Path.IsName name)
    (hdir : files.shape? (here ++ names) = some .directory) :
    files.walk jump here (names ++ rest) = files.walk jump (here ++ names) rest := by
  induction names generalizing here with
  | nil => rw [List.nil_append, List.append_nil]
  | cons name names ih =>
      obtain ⟨hname, hnames⟩ := List.forall_mem_cons.mp hnames
      have hsplit : here ++ name :: names = here ++ [name] ++ names := List.append_cons _ _ _
      have hhere : files.shape? here = some .directory := by
        refine directory_of_below name names ?_
        rw [hdir]
        exact Option.some_ne_none _
      rw [hsplit] at hdir ⊢
      have hnext : files.shape? (here ++ [name]) = some .directory := by
        cases names with
        | nil => rwa [List.append_nil] at hdir
        | cons next names =>
            refine directory_of_below next names ?_
            rw [hdir]
            exact Option.some_ne_none _
      rw [List.cons_append, walk_cons, hhere]
      dsimp only
      rw [hname.notVoid, if_neg Bool.false_ne_true, if_neg hname.notParent,
        if_neg (Nat.not_lt.mpr hname.short), hnext]
      exact ih hnames hdir

/-- Names that hold no link are walked one by one. -/
theorem walk_of_names {shape : Node.Shape} (hnames : ∀ name ∈ names, Path.IsName name)
    (hshape : files.shape? (here ++ names) = some shape) (hlink : ∀ target, shape ≠ .link target) :
    files.walk jump here names = .ok (.found (here ++ names)) := by
  cases names using List.reverseRecOn with
  | nil =>
      rw [List.append_nil]
      rfl
  | append_singleton front last =>
      obtain ⟨hfront, hlast⟩ := List.forall_mem_append.mp hnames
      have hname := hlast last (List.mem_singleton_self last)
      rw [← List.append_assoc] at hshape ⊢
      have hdir : files.shape? (here ++ front) = some .directory := by
        refine directory_of_below last [] ?_
        rw [hshape]
        exact Option.some_ne_none shape
      rw [walk_append_of_directory hfront hdir, walk_cons, hdir]
      dsimp only
      rw [hname.notVoid, if_neg Bool.false_ne_true, if_neg hname.notParent,
        if_neg (Nat.not_lt.mpr hname.short), hshape]
      cases shape with
      | link target => exact absurd rfl (hlink target)
      | _ => rfl

/-- What names lead to by themselves is found by their path, from wherever it is looked up. -/
theorem land_ofNames (cwd : List String) (h : files.Bears (.found names))
    (hnames : ∀ name ∈ names, Path.IsName name)
    (hshort : (Path.ofNames names).text.length ≤ 4095) :
    files.land cwd (Path.ofNames names) = .ok (.found names) := by
  obtain ⟨hroot, shape, hshape, hlink⟩ := h
  have hnul : (Path.ofNames names).text.toList.contains '\x00' = false := by
    rw [← Bool.not_eq_true, List.contains_iff_mem]
    exact Path.noNul_ofNames hnames
  have hwalk : ∀ jump, files.walk jump [] (Path.ofNames names).pieces = .ok (.found names) := by
    intro jump
    rw [Path.pieces_ofNames hnames, walk_cons, hroot]
    dsimp only
    rw [if_pos (show Path.isVoid "" = true from rfl)]
    by_cases hnil : names = []
    · rw [if_pos hnil, walk_cons, hroot, hnil]
      rfl
    · rw [if_neg hnil]
      exact walk_of_names hnames hshape hlink
  rw [land, hnul, if_neg Bool.false_ne_true, if_neg (Path.text_ofNames_ne names),
    if_neg (Nat.not_lt.mpr hshort), Path.isAbsolute_ofNames, if_pos rfl]
  exact hwalk _

/-- Where an absolute path leads does not depend on where it is seen from. -/
theorem locate_of_isAbsolute {p : Path} (h : p.isAbsolute = true) (files : FileSystem)
    (cwd other : List String) : files.locate cwd p = files.locate other p := by
  rw [locate, locate, land, land, if_pos h, if_pos h]

theorem node?_of_isAbsolute {p : Path} (h : p.isAbsolute = true) (files : FileSystem)
    (cwd other : List String) : files.node? cwd p = files.node? other p := by
  rw [node?, node?, locate_of_isAbsolute h files cwd other]

/-- From a place that is no directory, or not there, no relative path leads anywhere. -/
theorem land_ne_ok_of_lost {files : FileSystem} {cwd : List String} {p : Path}
    (hcwd : files.isDirectory cwd ⟨"."⟩ = false) (hp : p.isAbsolute = false) (landing : Landing) :
    files.land cwd p ≠ .ok landing := by
  have hlost : files.shape? cwd ≠ some .directory := by
    intro hshape
    have hland : files.land cwd ⟨"."⟩ = .ok (.found cwd) := by
      show files.walk _ cwd ["."] = _
      rw [walk_cons, hshape]
      rfl
    have hdirectory : files.isDirectory cwd ⟨"."⟩ = true :=
      isDirectory_iff.mpr ⟨cwd, locate_eq_ok_iff.mpr hland, hshape⟩
    rw [hcwd] at hdirectory
    cases hdirectory
  have hwalk : ∀ jump pieces, pieces ≠ [] → files.walk jump cwd pieces ≠ .ok landing := by
    intro jump pieces hne
    obtain ⟨piece, rest, rfl⟩ := List.exists_cons_of_ne_nil hne
    rw [walk_cons]
    split
    · contradiction
    · exact nofun
    · exact nofun
  intro h
  unfold land at h
  rw [hp] at h
  split at h
  · cases h
  split at h
  · cases h
  split at h
  · cases h
  exact hwalk _ _ (Path.pieces_ne_nil p) h

theorem isDirectory_of_lost {files : FileSystem} {cwd : List String} {p : Path}
    (hcwd : files.isDirectory cwd ⟨"."⟩ = false) (hp : p.isAbsolute = false) :
    files.isDirectory cwd p = false := by
  rw [Bool.eq_false_iff]
  intro h
  obtain ⟨names, hlocate, -⟩ := isDirectory_iff.mp h
  exact land_ne_ok_of_lost hcwd hp _ (locate_eq_ok_iff.mp hlocate)

theorem canonical_eq_ok_iff {cwd : List String} {p resolved : Path} :
    files.canonical cwd p = .ok resolved ↔
      ∃ names, files.locate cwd p = .ok names ∧ Path.ofNames names = resolved ∧
        resolved.text.length ≤ 4095 := by
  rw [canonical]
  cases files.locate cwd p with
  | error e => simp
  | ok names =>
      dsimp only
      split
      · rename_i hlong
        refine iff_of_false nofun ?_
        rintro ⟨_, hnames, rfl, hshort⟩
        cases hnames
        exact absurd hshort (Nat.not_le.mpr hlong)
      · rename_i hshort
        constructor
        · rintro ⟨⟩
          exact ⟨names, rfl, rfl, Nat.not_lt.mp hshort⟩
        · rintro ⟨_, hnames, rfl, _⟩
          cases hnames
          rfl

/-- A file system whose entries all have names that an entry can have. -/
def WellNamed (files : FileSystem) : Prop :=
  files.root.WellNamed

theorem WellNamed.isName_of_locate {cwd : List String} {p : Path} (hfiles : files.WellNamed)
    (h : files.locate cwd p = .ok names) : ∀ name ∈ names, Path.IsName name := by
  obtain ⟨node, hnode⟩ := exists_entry_of_locate h
  exact Node.WellNamed.isName hfiles hnode

theorem WellNamed.isName_of_directory (hfiles : files.WellNamed)
    (hdir : files.shape? names = some .directory) : ∀ name ∈ names, Path.IsName name := by
  obtain ⟨children, hchildren⟩ := entry?_of_directory hdir
  exact Node.WellNamed.isName hfiles hchildren

/-- The canonical form of a path is its own canonical form, and that from wherever it is seen. -/
theorem canonical_of_canonical {cwd : List String} {p resolved : Path} (hfiles : files.WellNamed)
    (h : files.canonical cwd p = .ok resolved) (other : List String) :
    files.canonical other resolved = .ok resolved := by
  obtain ⟨names, hlocate, rfl, hshort⟩ := canonical_eq_ok_iff.mp h
  refine canonical_eq_ok_iff.mpr ⟨names, locate_eq_ok_iff.mpr ?_, rfl, hshort⟩
  exact land_ofNames other (bears_of_locate hlocate) (hfiles.isName_of_locate hlocate) hshort

theorem isAbsolute_of_canonical {cwd : List String} {p resolved : Path}
    (h : files.canonical cwd p = .ok resolved) : resolved.isAbsolute = true := by
  obtain ⟨names, _, rfl, _⟩ := canonical_eq_ok_iff.mp h
  exact Path.isAbsolute_ofNames names

/-- Only the root has no name. -/
theorem eq_root_of_canonical {cwd : List String} {p resolved : Path} (hfiles : files.WellNamed)
    (h : files.canonical cwd p = .ok resolved) (hname : resolved.fileName?.getD "" = "") :
    resolved = ⟨"/"⟩ := by
  obtain ⟨names, hlocate, rfl, _⟩ := canonical_eq_ok_iff.mp h
  have hnames := hfiles.isName_of_locate hlocate
  rw [Path.fileName?_ofNames hnames] at hname
  cases names using List.reverseRecOn with
  | nil => rfl
  | append_singleton front last =>
      have hlast := (hnames last (List.mem_append_right _ (List.mem_singleton_self last))).notVoid
      rw [List.getLast?_concat] at hname
      rw [show last = "" from hname] at hlast
      exact absurd hlast (by decide)

end FileSystem

end EnvScout
