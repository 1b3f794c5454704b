import EnvScout.Text.Split
import EnvScout.Text.Utf8

/-!
Paths as they are written, with `/` between the pieces. What is written are bytes, which need not be
those of a text. A path keeps them, and so does every name in it, each byte as the character of its
number; what a path says is read from its pieces, where an empty piece or a lone dot says nothing.
Two paths are the same place in writing when they have the same components.
-/

namespace EnvScout

structure Path where
  /-- The bytes of the path. -/
  text : String
  deriving DecidableEq, Inhabited

namespace Path

open Text

/-- The path that a text spells. -/
def ofText (text : String) : Path :=
  ⟨Utf8.encoded text⟩

/-- The path as a text, in which replacement characters stand for what cannot be read. -/
def shown (p : Path) : String :=
  Utf8.decoded p.text

/-- Whether the bytes of a path are those of a text. -/
def isText (p : Path) : Bool :=
  ofText p.shown == p

/-- How a path begins: at the root, with a lone dot, or with a name. -/
inductive Anchor where
  | root
  | dot
  | bare
  deriving DecidableEq

inductive Component where
  | root
  | current
  | parent
  | name (text : String)
  deriving DecidableEq

def isAbsolute (p : Path) : Bool :=
  p.text.toList.head? == some '/'

/-- What stands between the separators, empty pieces and dots included. -/
def pieces (p : Path) : List String :=
  (splitOn '/' p.text.toList).map String.ofList

def ofPieces (pieces : List String) : Path :=
  ⟨String.ofList (joinWith '/' (pieces.map String.toList))⟩

/-- A piece that leads nowhere: an empty one or a lone dot. -/
def isVoid (piece : String) : Bool :=
  piece == "" || piece == "."

/-- The beginning of a path and the pieces after it. -/
def anchored (p : Path) : Anchor × List String :=
  match p.pieces with
  | "" :: piece :: rest => (.root, piece :: rest)
  | "." :: rest => (.dot, rest)
  | pieces => (.bare, pieces)

def ofAnchored : Anchor → List String → Path
  | .root, body => ⟨"/" ++ (ofPieces body).text⟩
  | .dot, [] => ⟨"."⟩
  | .dot, body => ⟨"./" ++ (ofPieces body).text⟩
  | .bare, body => ofPieces body

def Component.ofPiece? (piece : String) : Option Component :=
  if isVoid piece then none
  else if piece = ".." then some .parent
  else some (.name piece)

def Anchor.components : Anchor → List Component
  | .root => [.root]
  | .dot => [.current]
  | .bare => []

def components (p : Path) : List Component :=
  p.anchored.1.components ++ p.anchored.2.filterMap Component.ofPiece?

/-- The absolute path that goes down through `names`. -/
def ofNames (names : List String) : Path :=
  ofAnchored .root names

/-- Goes on from `p` by `q`; an absolute `q` starts afresh. -/
def join (p q : Path) : Path :=
  if q.isAbsolute then q
  else if p.text = "" then q
  else if p.text.toList.getLast? = some '/' then ⟨p.text ++ q.text⟩
  else ⟨p.text ++ "/" ++ q.text⟩

/-- One name further down. -/
def child (p : Path) (name : String) : Path :=
  p.join ⟨name⟩

/-- The pieces before the last one that leads somewhere, and that one. -/
def cutLast (body : List String) : Option (List String × String) :=
  match body.reverse.dropWhile isVoid with
  | [] => none
  | last :: rest => some (rest.reverse, last)

/-- Void pieces at the end taken off. -/
def trimEnd (body : List String) : List String :=
  (body.reverse.dropWhile isVoid).reverse

/-- The path without its last component, none for the root and the empty path. -/
def parent? (p : Path) : Option Path :=
  match p.anchored, cutLast p.anchored.2 with
  | (anchor, _), some (front, _) => some (ofAnchored anchor (trimEnd front))
  | (.dot, _), none => some ⟨""⟩
  | _, none => none

/-- The last component, where it is a name. -/
def fileName? (p : Path) : Option String :=
  match p.components.getLast? with
  | some (.name text) => some text
  | _ => none

/-- The path and then its parents up to the last one, at most `n` of them. -/
def upward : Nat → Path → List Path
  | 0, p => [p]
  | n + 1, p => p :: match p.parent? with
    | none => []
    | some q => upward n q

/-- The path and everything above it, nearest first. -/
def ancestors (p : Path) : List Path :=
  upward p.components.length p

/-- Same components, so that doubled separators, a separator at the end and dots do not count. -/
def Same (p q : Path) : Prop :=
  p.components = q.components

instance (p q : Path) : Decidable (p.Same q) :=
  inferInstanceAs (Decidable (_ = _))

/-- Whether `p` lies in the directory `q` or is it, going by components. -/
def startsWith (p q : Path) : Bool :=
  q.components.isPrefixOf p.components

/-- A name without its last dot and what follows it; a dot in front does not count. -/
def stem (name : String) : String :=
  match (splitOn '.' name.toList).reverse with
  | [] => name
  | [_] => name
  | _ :: rest =>
    let front := joinWith '.' rest.reverse
    if front = [] then name else String.ofList front

/-- The path with the extension of its file name replaced. -/
def withExtension (p : Path) (extension : String) : Path :=
  match p.fileName?, cutLast p.anchored.2 with
  | some name, some (front, _) =>
    ofAnchored p.anchored.1 (front ++ [stem name ++ "." ++ extension])
  | _, _ => p

end Path

end EnvScout
