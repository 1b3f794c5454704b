import EnvScout.Location
import EnvScout.Proofs.Files.Landing

/-!
File systems that differ in the contents of files alone, and in whether these can be read. Walks go
by shapes, and the two have the same shapes, so in both every path leads to the same place, and what
is there is a file or a directory in both, with the same names in it.
-/

namespace EnvScout

namespace Node

/-- The same tree, but for what is in its files. -/
inductive Alike : Node → Node → Prop where
  | file (content content' : ByteArray) (executable : Bool) :
      Alike (.file content executable) (.file content' executable)
  | link (target : Path) : Alike (.link target) (.link target)
  | nil : Alike (.directory []) (.directory [])
  | cons (name : String) {node node' : Node} {rest rest' : List (String × Node)}
      (first : Alike node node') (others : Alike (.directory rest) (.directory rest')) :
      Alike (.directory ((name, node) :: rest)) (.directory ((name, node') :: rest'))

namespace Alike

variable {node node' : Node}

theorem shape_eq (h : Alike node node') : node.shape = node'.shape := by
  cases h <;> rfl

theorem names_eq {children children' : List (String × Node)}
    (h : Alike (.directory children) (.directory children')) :
    children.map Prod.fst = children'.map Prod.fst := by
  induction children generalizing children' with
  | nil =>
      cases h
      rfl
  | cons child rest ih =>
      cases h with
      | cons name first others => exact congrArg (name :: ·) (ih others)

theorem lookup {children children' : List (String × Node)}
    (h : Alike (.directory children) (.directory children')) (name : String) :
    Option.Rel Alike (children.lookup name) (children'.lookup name) := by
  induction children generalizing children' with
  | nil =>
      cases h
      exact .none
  | cons child rest ih =>
      cases h with
      | cons other first others =>
          rw [lookup_cons_eq, lookup_cons_eq]
          split
          · exact .some first
          · exact ih others

theorem child? (h : Alike node node') (name : String) :
    Option.Rel Alike (node.child? name) (node'.child? name) := by
  cases h with
  | file content content' executable => exact .none
  | link target => exact .none
  | nil => exact .none
  | cons other first others => exact (Alike.cons other first others).lookup name

theorem at? (h : Alike node node') (names : List String) :
    Option.Rel Alike (node.at? names) (node'.at? names) := by
  induction names generalizing node node' with
  | nil => exact .some h
  | cons name rest ih =>
      rw [Node.at?, Node.at?]
      have hchild := h.child? name
      generalize node.child? name = next at hchild
      generalize node'.child? name = next' at hchild
      cases hchild with
      | none => exact .none
      | some hnext => exact ih hnext

end Alike

end Node

namespace FileSystem

/-- The same file system, but for what is in its files and what may be read and written of it. The
same directories can be listed. -/
structure Alike (files files' : FileSystem) : Prop where
  root : files.root.Alike files'.root
  listed : ∀ names, files.shape? names = some .directory →
    files.refuses .read names = files'.refuses .read names

variable {files files' : FileSystem}

theorem Alike.shape?_eq (h : files.Alike files') : files.shape? = files'.shape? := by
  funext names
  unfold shape? entry?
  have hat := Node.Alike.at? h.root names
  generalize files.root.at? names = found at hat
  generalize files'.root.at? names = found' at hat
  cases hat with
  | none => rfl
  | some hnode => exact congrArg some hnode.shape_eq

theorem Alike.walk_eq (h : files.Alike files')
    (jump : List String → List String → Except FileError Landing) :
    files.walk jump = files'.walk jump := by
  funext here pieces
  induction pieces generalizing here with
  | nil => rfl
  | cons piece rest ih =>
      rw [walk_cons, walk_cons, h.shape?_eq]
      simp only [ih]

theorem Alike.follow_eq (h : files.Alike files') (links : Nat) :
    files.follow links = files'.follow links := by
  induction links with
  | zero => exact h.walk_eq _
  | succ links ih => rw [follow, follow, ih, h.walk_eq]

theorem Alike.land_eq (h : files.Alike files') : files.land = files'.land := by
  funext cwd p
  rw [land, land, h.follow_eq]

theorem Alike.locate_eq (h : files.Alike files') : files.locate = files'.locate := by
  funext cwd p
  rw [locate, locate, h.land_eq]

theorem Alike.canonical_eq (h : files.Alike files') : files.canonical = files'.canonical := by
  funext cwd p
  rw [canonical, canonical, h.locate_eq]

theorem Alike.isDirectory_eq (h : files.Alike files') :
    files.isDirectory = files'.isDirectory := by
  funext cwd p
  rw [Bool.eq_iff_iff, isDirectory_iff, isDirectory_iff, h.locate_eq, h.shape?_eq]

theorem Alike.isFile_eq (h : files.Alike files') : files.isFile = files'.isFile := by
  funext cwd p
  rw [Bool.eq_iff_iff, isFile_iff, isFile_iff, h.locate_eq, h.shape?_eq]

theorem Alike.listing_eq (h : files.Alike files') : files.listing = files'.listing := by
  funext cwd p
  rw [listing, listing, h.locate_eq]
  cases files'.locate cwd p with
  | error e => rfl
  | ok names =>
      dsimp only
      have hlisted := h.listed names
      unfold shape? at hlisted
      unfold entry? at hlisted ⊢
      have hat := Node.Alike.at? h.root names
      generalize files.root.at? names = found at hat hlisted
      generalize files'.root.at? names = found' at hat
      cases hat with
      | none => rfl
      | some hnode =>
          cases hnode with
          | file content content' executable => rfl
          | link target => rfl
          | nil =>
              dsimp only
              rw [hlisted rfl]
          | cons name first others =>
              dsimp only
              rw [hlisted rfl, (Node.Alike.cons name first others).names_eq]

theorem Alike.canonicalTilde_eq (h : files.Alike files') :
    canonicalTilde files = canonicalTilde files' := by
  funext site p
  rw [canonicalTilde, canonicalTilde, h.canonical_eq]

theorem Alike.absolutize_eq (h : files.Alike files') : absolutize files = absolutize files' := by
  funext cwd p
  rw [absolutize, absolutize, h.canonical_eq, h.isDirectory_eq]

end FileSystem

end EnvScout
