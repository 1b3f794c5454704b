/-!
What the program reports while it works. An event has a level, the part of the program it comes from
and its fields in the order they were recorded; the field called `message` holds the sentence.
-/

namespace EnvScout.Log

inductive Level where
  | error
  | warn
  | info
  | debug
  | trace
  deriving DecidableEq

/-- The higher the rank, the chattier the level. -/
def Level.rank : Level → Nat
  | error => 1
  | warn => 2
  | info => 3
  | debug => 4
  | trace => 5

def Level.name : Level → String
  | error => "ERROR"
  | warn => "WARN"
  | info => "INFO"
  | debug => "DEBUG"
  | trace => "TRACE"

/-- A recorded value: a text as such, or a value that is already in its printed form. -/
inductive Value where
  | text (s : String)
  | shown (s : String)
  deriving DecidableEq

structure Field where
  name : String
  value : Value
  deriving DecidableEq

structure Event where
  level : Level
  target : String
  fields : List Field
  deriving DecidableEq

/-- An event that is a sentence and nothing else. -/
def Event.sentence (level : Level) (target message : String) : Event :=
  ⟨level, target, [⟨"message", .shown message⟩]⟩

/-- The parts of the program that report. -/
inductive Part where
  | paths
  | pyvenv
  | conda
  | descriptor
  | finder
  | resolver
  | workspace
  | config
  | embedded
  | process
  | logging
  deriving DecidableEq

/-- The name under which a part's events are filtered and written. -/
def Part.target : Part → String
  | paths => "pyright_env::path_utils"
  | pyvenv => "pyright_env::venv::pyvenv_cfg"
  | conda => "pyright_env::venv::conda"
  | descriptor => "pyright_env::venv::descriptor"
  | finder => "pyright_env::venv::probe"
  | resolver => "pyright_env::venv::resolver"
  | workspace => "pyright_env::workspace"
  | config => "pyright_env::config"
  | embedded => "pyright_env::dev_env"
  | process => "pyright_env::services::process"
  | logging => "pyright_env::services::tracing_setup"

def Part.report (part : Part) (level : Level) (message : String) : Event :=
  .sentence level part.target message

end EnvScout.Log
