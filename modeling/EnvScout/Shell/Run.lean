import EnvScout.Shell.Inner
import EnvScout.Shell.Redirection

/-!
Running scripts. One step of a script is given by what its parts do, and a run takes a limited
number of steps one inside the other.
-/

namespace EnvScout.Shell

section

variable (run : Runner)

/-- Runs a simple command. Assignments in front of a program hold for it alone, without one they
stay. -/
def runSimple (command : Simple) (s : State) : State :=
  let (words, s) := expandWords run command.words (if command.words = [] then s.finish 0 else s)
  redirected run command.redirections (fun s =>
    if words = [] then assignAll run command.assignments s
    else if command.assignments = [] then runCommand run words s
    else
      let names := command.assignments.map (·.1)
      let prepared := assignAll run command.assignments { s with exported := names ++ s.exported }
      let after := runCommand run words prepared
      { after with bindings := s.bindings, exported := s.exported }) s

/-- Whether a pattern fits a text: a star stands for any text, a question mark for a character. -/
def fits : List Char → List Char → Bool
  | [], text => text.isEmpty
  | '*' :: pattern, [] => fits pattern []
  | '*' :: pattern, c :: text => fits pattern (c :: text) || fits ('*' :: pattern) text
  | '?' :: pattern, _ :: text => fits pattern text
  | p :: pattern, c :: text => p == c && fits pattern text
  | _ :: _, [] => false
termination_by pattern text => pattern.length + text.length

def chooseArm (subject : String) : List (List Word × Script) → State → State
  | [], s => s.finish 0
  | (patterns, body) :: rest, s =>
    let (texts, s) := expandWords run patterns s
    if texts.any fun pattern => fits pattern.toList subject.toList then run body s
    else chooseArm subject rest s

/-- Runs a body for each of some words. -/
def runEach (name : String) (body : Script) : List String → State → State
  | [], s => s
  | word :: rest, s =>
    if s.ending.isSome then s else runEach name body rest (run body (s.assign name word))

/-- Runs the first script into a buffer and the second one with that for its input. -/
def runPiped (first second : Script) (s : State) : State :=
  let (bytes, child) := (run first s.openBuffer).closeBuffer
  let fed := s.resume child
  let after := run second { fed with input := bytes, status := 0 }
  fed.resume { after with input := fed.input }

/-- One step of a script, where its parts are run by `run`. -/
def step (script : Script) (s : State) : State :=
  if s.ending.isSome then s
  else match script with
    | .nothing => s
    | .simple command => runSimple run command s
    | .sequence first second => run second (run first s)
    | .depending onSuccess first second =>
      let after := run first s
      if (after.status == 0) == onSuccess then run second after else after
    | .negated script =>
      let after := run script s
      after.finish (if after.status = 0 then 1 else 0)
    | .piped first second => runPiped run first second s
    | .branch test yes no =>
      let after := run test s
      if after.status = 0 then run yes after else run no (after.finish 0)
    | .loop wanted test body =>
      let after := run test s
      if (after.status == 0) == wanted then run (.loop wanted test body) (run body after)
      else after.finish 0
    | .each name words body =>
      match words with
      | some words =>
        let (texts, s) := expandWords run words s
        runEach run name body texts (s.finish 0)
      | none => runEach run name body s.arguments (s.finish 0)
    | .choose subject arms =>
      let (text, s) := expandText run subject s
      chooseArm run text arms s
    | .apart script => s.resume (run script s)
    | .redirected script redirections => redirected run redirections (run script) s

end

/-- Runs a script in at most so many steps one inside the other. -/
def runFor : Nat → Runner
  | 0 => fun _ s => s.stop (.exit 2)
  | n + 1 => step (runFor n)

/-- How deeply the steps of a run may lie one inside the other. -/
def depthLimit : Nat := 100000

/-- Runs a program to its end. -/
def runProgram (image : Image) (s : State) : State :=
  runImage (runFor depthLimit) image s

end EnvScout.Shell
