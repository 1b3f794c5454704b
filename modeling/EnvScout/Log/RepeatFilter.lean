/-!
Keeping repeats out of a log. A message is written when it has not been written within the window
before; repeats inside the window are dropped and counted, and the next copy written says how many
were dropped. When many messages are tracked, those that are out of their window are forgotten.
Times and windows are in milliseconds.
-/

namespace EnvScout.Log

/-- What is known of a message: when it was last written, and how many copies were dropped since. -/
structure Seen where
  last : Nat
  dropped : Nat
  deriving DecidableEq

structure RepeatFilter where
  window : Nat
  seen : List (String × Seen)
  deriving DecidableEq

namespace RepeatFilter

def standardWindow : Nat := 5000

/-- From this many messages on, old ones are forgotten. -/
def trackedLimit : Nat := 64

def new (window : Nat) : RepeatFilter :=
  ⟨window, []⟩

/-- Whether a message was last written within the window. A clock that runs backwards counts as
standing still. -/
def isRecent (window now : Nat) (seen : Seen) : Bool :=
  now - seen.last < window

def purge (filter : RepeatFilter) (now : Nat) : RepeatFilter :=
  if filter.seen.length ≥ trackedLimit then
    { filter with seen := filter.seen.filter fun entry => isRecent filter.window now entry.2 }
  else filter

/-- The entries with the one of `message` put in its place. -/
def setSeen (message : String) (seen : Seen) : List (String × Seen) → List (String × Seen)
  | [] => [(message, seen)]
  | entry :: rest =>
    if entry.1 = message then (message, seen) :: rest else entry :: setSeen message seen rest

def track (filter : RepeatFilter) (message : String) (seen : Seen) : RepeatFilter :=
  { filter with seen := setSeen message seen filter.seen }

/-- Decides on a message: none when it is dropped, or else the number of copies dropped since the
last one that was written. -/
def decide (filter : RepeatFilter) (message : String) (now : Nat) : Option Nat × RepeatFilter :=
  let filter := filter.purge now
  match filter.seen.lookup message with
  | some seen =>
    if isRecent filter.window now seen then
      (none, filter.track message ⟨seen.last, seen.dropped + 1⟩)
    else (some seen.dropped, filter.track message ⟨now, 0⟩)
  | none => (some 0, filter.track message ⟨now, 0⟩)

/-- Decides on messages one after the other; each decision comes with the number of messages tracked
after it. -/
def run : RepeatFilter → List (String × Nat) → List (Option Nat × Nat)
  | _, [] => []
  | filter, (message, now) :: rest =>
    let (decision, next) := filter.decide message now
    (decision, next.seen.length) :: run next rest

end RepeatFilter

end EnvScout.Log
