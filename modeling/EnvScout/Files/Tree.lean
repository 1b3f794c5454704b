import EnvScout.Path.Basic

/-!
A file system as a value: a tree of directories with files and symbolic links in them, and what the
program is refused in it. Places are given by the names on the way down from the root; a name is
kept byte for byte, as in paths. What may be refused is reading and writing; every directory can be
passed through to what is below it, so one that cannot is here a directory with nothing in it.
-/

namespace EnvScout

inductive Node where
  | file (content : ByteArray) (executable : Bool)
  | link (target : Path)
  | directory (children : List (String × Node))

namespace Node

def empty : Node :=
  .directory []

def child? : Node → String → Option Node
  | .directory children, name => children.lookup name
  | _, _ => none

/-- The node reached by going down through `names`; links are not followed. -/
def at? : Node → List String → Option Node
  | node, [] => some node
  | node, name :: rest =>
    match node.child? name with
    | some next => next.at? rest
    | none => none

/-- The children with one of them replaced, or added behind the others. -/
def setChild (children : List (String × Node)) (name : String) (node : Node) :
    List (String × Node) :=
  match children with
  | [] => [(name, node)]
  | (other, old) :: rest =>
    if other = name then (name, node) :: rest else (other, old) :: setChild rest name node

/-- The tree with `new` at the given place; nothing changes where the directory for it is
missing. -/
def put : Node → List String → Node → Node
  | _, [], new => new
  | .directory children, name :: rest, new =>
    match children.lookup name, rest with
    | some old, _ => .directory (setChild children name (old.put rest new))
    | none, [] => .directory (setChild children name new)
    | none, _ :: _ => .directory children
  | node, _ :: _, _ => node

/-- The tree without what is at the given place. -/
def erase : Node → List String → Node
  | node, [] => node
  | .directory children, [name] => .directory (children.filter fun entry => entry.1 != name)
  | .directory children, name :: rest =>
    match children.lookup name with
    | some old => .directory (setChild children name (old.erase rest))
    | none => .directory children
  | node, _ :: _ => node

end Node

/-- What a program may be refused at a place. -/
inductive Access where
  /-- To list a directory, or to read a file. -/
  | read
  /-- To change what is in a directory, or in a file. -/
  | write
  deriving DecidableEq

structure FileSystem where
  root : Node
  /-- What is refused, and where. -/
  refused : List (Access × List String)

namespace FileSystem

def entry? (files : FileSystem) (names : List String) : Option Node :=
  files.root.at? names

/-- Whether the program may not do this at the place. -/
def refuses (files : FileSystem) (access : Access) (names : List String) : Bool :=
  files.refused.contains (access, names)

def put (files : FileSystem) (names : List String) (node : Node) : FileSystem :=
  ⟨files.root.put names node, files.refused⟩

/-- The files without what is at the place and what is refused there. -/
def erase (files : FileSystem) (names : List String) : FileSystem :=
  ⟨files.root.erase names, files.refused.filter fun entry => !names.isPrefixOf entry.2⟩

end FileSystem

end EnvScout
