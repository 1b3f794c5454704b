import EnvScout.Files.Lookup

/-!
Changes to a file system: making directories, writing files, placing links and removing what is
there. Each change gives the new file system or the reason it is refused. A directory that may not
be written takes no new entries and gives none up; what is in the way of a new entry is told first.
-/

namespace EnvScout.FileSystem

/-- The directory that holds `p` and the name `p` has in it; a link at the end is not followed. The
directory is looked up before the name is judged. -/
def holder (files : FileSystem) (cwd : List String) (p : Path) :
    Except FileError (List String × String) :=
  match p.parent? with
  | none => if p.text = "" then .error .notFound else .error .alreadyExists
  | some dir =>
    if p.text.toList.contains '\x00' then .error .nulInName
    else if p.text.length > 4095 then .error .nameTooLong
    else match files.locate cwd (if dir.text = "" then ⟨"."⟩ else dir) with
      | .error e => .error e
      | .ok names =>
        match files.entry? names, p.fileName? with
        | some (.directory _), some name =>
          if name.length > 255 then .error .nameTooLong else .ok (names, name)
        | some (.directory _), none => .error .alreadyExists
        | some _, _ => .error .notADirectory
        | none, _ => .error .notFound

def makeDirectory (files : FileSystem) (cwd : List String) (p : Path) :
    Except FileError FileSystem :=
  match files.holder cwd p with
  | .error e => .error e
  | .ok (dir, name) =>
    match files.entry? (dir ++ [name]) with
    | some _ => .error .alreadyExists
    | none =>
      if files.refuses .write dir then .error .permissionDenied
      else .ok (files.put (dir ++ [name]) .empty)

/-- Makes every directory of `paths`, which run from the deepest up, where it is missing. What has
been made stays when something further down stands in the way. -/
def makeChain (files : FileSystem) (cwd : List String) :
    List Path → FileSystem × Option FileError
  | [] => (files, some .notFound)
  | p :: above =>
    if p.text = "" then (files, none)
    else match files.makeDirectory cwd p with
      | .ok made => (made, none)
      | .error e =>
        if files.isDirectory cwd p then (files, none)
        else if e = .notFound then
          match makeChain files cwd above with
          | (prepared, some e) => (prepared, some e)
          | (prepared, none) =>
            match prepared.makeDirectory cwd p with
            | .ok made => (made, none)
            | .error e =>
              (prepared, if prepared.isDirectory cwd p then none else some e)
        else (files, some e)

/-- Makes the directory `p` and every directory above it that is missing. The result is what the
files are then and what stood in the way, if anything did. -/
def makeDirectories (files : FileSystem) (cwd : List String) (p : Path) :
    FileSystem × Option FileError :=
  files.makeChain cwd p.ancestors

/-- Writes a file, new or in place of the old content; a link at the end is followed. -/
def write (files : FileSystem) (cwd : List String) (p : Path) (content : ByteArray)
    (executable : Bool) : Except FileError FileSystem :=
  match files.land cwd p with
  | .error e => .error e
  | .ok (.vacant dir name) =>
    if files.refuses .write dir then .error .permissionDenied
    else .ok (files.put (dir ++ [name]) (.file content executable))
  | .ok (.found names) =>
    match files.entry? names with
    | some (.file _ _) =>
      if files.refuses .write names then .error .permissionDenied
      else .ok (files.put names (.file content executable))
    | _ => .error .isADirectory

/-- Places a symbolic link with the target as it is written. -/
def link (files : FileSystem) (cwd : List String) (p target : Path) :
    Except FileError FileSystem :=
  match files.holder cwd p with
  | .error e => .error e
  | .ok (dir, name) =>
    match files.entry? (dir ++ [name]) with
    | some _ => .error .alreadyExists
    | none =>
      if files.refuses .write dir then .error .permissionDenied
      else .ok (files.put (dir ++ [name]) (.link target))

/-- Removes a file, a link itself, or a directory with all that is in it. -/
def remove (files : FileSystem) (cwd : List String) (p : Path) : Except FileError FileSystem :=
  match files.holder cwd p with
  | .error e => .error e
  | .ok (dir, name) =>
    match files.entry? (dir ++ [name]) with
    | some _ =>
      if files.refuses .write dir then .error .permissionDenied
      else .ok (files.erase (dir ++ [name]))
    | none => .error .notFound

end EnvScout.FileSystem
