import EnvScout.Shell.Expansion

/-!
Redirections: where a command takes its input from and where its output goes, for as long as it
runs. A file is opened before the command starts, and a redirection that is refused keeps it from
starting.
-/

namespace EnvScout.Shell

section

variable (run : Runner)

/-- Where a file that is opened for writing takes what is written. -/
def openSink (s : State) (p : Path) (keep : Bool) : Except FileError (Sink × State) :=
  match s.files.locate s.directory p with
  | .ok ["dev", "null"] => .ok (.nowhere, s)
  | .ok names =>
    match s.files.entry? names with
    | some (.file content executable) =>
      let content := if keep then content else .empty
      .ok (.file names, { s with files := s.files.put names (.file content executable) })
    | _ => .error .isADirectory
  | .error .notFound =>
    match s.files.write s.directory p .empty false with
    | .ok files =>
      match files.locate s.directory p with
      | .ok names => .ok (.file names, { s with files := files })
      | .error e => .error e
    | .error e => .error e
  | .error e => .error e

def setSink (s : State) (descriptor : Nat) (sink : Sink) : State :=
  match descriptor with
  | 1 => { s with output := sink }
  | 2 => { s with errors := sink }
  | _ => s

/-- Opens what redirections ask for, none when one of them is refused. -/
def redirect : List Redirection → State → Option State × State
  | [], s => (some s, s)
  | ⟨descriptor, mark, target⟩ :: rest, s =>
    let (text, s) := expandText run target s
    match mark with
    | ">&" =>
      redirect rest (setSink s descriptor
        (if text = "1" then s.output else if text = "2" then s.errors else .nowhere))
    | "<&" => redirect rest s
    | "<" =>
      match s.files.readBytes s.directory ⟨text⟩ with
      | .ok content => redirect rest { s with input := content.toList }
      | .error e =>
        (none, s.complain (s.name ++ ": 1: cannot open " ++ text ++ ": " ++
          Program.reasonOr "No such file" e) 2)
    | mark =>
      match openSink s ⟨text⟩ (mark == ">>") with
      | .ok (sink, s) => redirect rest (setSink s descriptor sink)
      | .error e =>
        (none, s.complain (s.name ++ ": 1: cannot create " ++ text ++ ": " ++
          Program.reasonOr "Directory nonexistent" e) 2)

/-- Runs something with redirections, which hold for it alone. -/
def redirected (redirections : List Redirection) (body : State → State) (s : State) : State :=
  match redirect run redirections s with
  | (none, refused) =>
    { refused with input := s.input, output := s.output, errors := s.errors }
  | (some opened, _) =>
    let after := body opened
    let input := if redirections.any fun r => r.descriptor == 0 then s.input else after.input
    { after with input := input, output := s.output, errors := s.errors }

end

end EnvScout.Shell
