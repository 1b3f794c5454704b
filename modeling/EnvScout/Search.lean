import EnvScout.Host

/-!
A search is a computation that looks at the files and runs commands. What it may change is kept in a
world: the files themselves, the commands run so far and the events reported. Where it takes place,
its site, stays the same throughout.
-/

namespace EnvScout

structure World where
  files : FileSystem
  /-- The commands run, oldest first. -/
  commands : List Command
  /-- The events reported, oldest first. -/
  events : List Log.Event

def World.ofFiles (files : FileSystem) : World :=
  ⟨files, [], []⟩

structure Site where
  host : Host
  /-- The home directory, where one is known. -/
  home : Option Path
  /-- The working directory, by the names on the way down to it. -/
  workingDirectory : List String
  /-- Where temporary directories are made, and what the next one has at the end of its name. -/
  temporaryDirectory : Path
  temporaryMark : String

abbrev Search := StateM World

namespace Search

/-- Reads something off the files as they are now. -/
def look {α : Type} (read : FileSystem → α) : Search α :=
  fun world => (read world.files, world)

def report (event : Log.Event) : Search Unit :=
  fun world => ((), { world with events := world.events ++ [event] })

def reportAll (events : List Log.Event) : Search Unit :=
  fun world => ((), { world with events := world.events ++ events })

def setFiles (files : FileSystem) : Search Unit :=
  fun world => ((), { world with files := files })

/-- Runs a command and notes that it was run. -/
def run (host : Host) (command : Command) (directory : Option Path) : Search (Option Output) :=
  fun world =>
    let execution := host.run world.files command directory
    (execution.output,
      ⟨execution.files, world.commands ++ [command], world.events ++ execution.events⟩)

/-- The program of that name on the host's search path, with the files as they are now. -/
def which (host : Host) (program : String) : Search (Option Path) :=
  look fun files => host.which files program

/-- The first result that one of the items gives, in their order; those after it are not tried. -/
def firstSome {α β : Type} (attempt : α → Search (Option β)) : List α → Search (Option β)
  | [] => pure none
  | item :: rest => do
    match ← attempt item with
    | some result => pure (some result)
    | none => firstSome attempt rest

end Search

end EnvScout
