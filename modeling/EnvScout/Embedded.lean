import EnvScout.Json.Decode
import EnvScout.Settings.Apply

/-!
Applications that come with a Python of their own. Where it looks for modules is found out by
running the application with a small script that prints the search path; the paths then go in
front of the extra paths in the settings of a language server.
-/

namespace EnvScout

inductive Application where
  | blender
  | gdb
  deriving DecidableEq

namespace Application

open Json

def all : List Application :=
  [blender, gdb]

def name : Application → String
  | blender => "blender"
  | gdb => "gdb"

/-- The name in capitalised words. -/
def label : Application → String
  | blender => "Blender"
  | gdb => "Gdb"

def ofName? (name : String) : Option Application :=
  all.find? fun application => application.name == name

def scriptName : Application → String
  | blender => "print_sys_path.py"
  | gdb => "print_sys_path.commands"

/-- The statements that print the search path. -/
def printPath : String :=
  "import sys\nimport json\n" ++
    "json.dump(\x7b\"executable\": sys.executable, \"paths\": sys.path\x7d, sys.stdout)"

/-- The script in the language of the application. -/
def script : Application → String
  | blender => printPath ++ "\nexit(0)\n"
  | gdb => "python\n" ++ printPath ++ "\nend\nexit\n"

def command (application : Application) (binary : String) (scriptPath : Path) : Command :=
  match application with
  | blender => ⟨.ofText binary, ["--background", "--python", scriptPath.shown]⟩
  | gdb => ⟨.ofText binary, ["--batch", "--command", scriptPath.shown]⟩

/-- What the script prints. -/
structure PathReport where
  executable : Option String
  paths : List String
  deriving DecidableEq

structure PathReport.Draft where
  executable : Option (Option String) := none
  paths : Option (List String) := none

def PathReport.fields : List (Decoder.Field PathReport.Draft) := [
  { name := "executable", aliases := [], isOptional := true,
    isSet := fun draft => draft.executable.isSome,
    read := fun draft => Decoder.into (Decoder.optional .string) fun value =>
      { draft with executable := some value } },
  { name := "paths", aliases := [], isOptional := false,
    isSet := fun draft => draft.paths.isSome,
    read := fun draft => Decoder.into (Decoder.list .string) fun value =>
      { draft with paths := some value } }]

def PathReport.parse? (text : String) : Option PathReport :=
  match Decoder.decode (Decoder.record "SysPathReport" PathReport.fields {}) text with
  | .ok draft => some ⟨draft.executable.join, draft.paths.getD []⟩
  | .error _ => none

/-- Why the paths of an application cannot be had. -/
inductive Failure where
  | noTemporaryDirectory
  | noScript (scriptPath : Path)
  | notRun (command : Command)
  | exited (code : Int) (command : Command)
  | noReport
  | badReport
  | unknownApplication (name : String)
  deriving DecidableEq

def Failure.message : Failure → String
  | noTemporaryDirectory => "Failed to create a temporary directory"
  | noScript scriptPath => "Failed to write " ++ Text.quotedPath scriptPath.text
  | notRun command => "Failed to run command: " ++ command.line
  | exited code command =>
    "Command exited with code " ++ toString code ++ ": " ++ command.line
  | noReport => "Unexpected output from blender"
  | badReport => "Failed to parse sys.path report"
  | unknownApplication name => "unknown dev_environment: " ++ Text.quoted name

/-- The text from the first line on that begins with a brace and a quote. -/
def fromReport (atLineStart : Bool) : List Char → Option (List Char)
  | [] => none
  | c :: cs =>
    if atLineStart && c == '{' && cs.head? == some '"' then some (c :: cs)
    else fromReport (c == '\n') cs

/-- The report in what the application printed. Blender says other things before it. -/
def readReport (application : Application) (stdout : String) : Except Failure PathReport :=
  let body := match application with
    | blender => fromReport true stdout.toList
    | gdb => some stdout.toList
  match body with
  | none => .error .noReport
  | some text =>
    match PathReport.parse? (String.ofList (Text.trim text)) with
    | some report => .ok report
    | none => .error .badReport

/-- What the output of a finished run comes to. -/
def judge (application : Application) (command : Command) :
    Option Output → Except Failure PathReport
  | none => .error (.notRun command)
  | some output =>
    if output.success then application.readReport output.stdout
    else .error (.exited output.exitCode command)

/-- The directory for the script. -/
def scriptDirectory (site : Site) : Path :=
  let parent := site.temporaryDirectory
  let parent :=
    if parent.isAbsolute then parent else (Path.ofNames site.workingDirectory).join parent
  parent.child ("pyright-env-" ++ site.temporaryMark)

/-- The files with the script in place. -/
def placeScript (application : Application) (site : Site) (files : FileSystem) :
    Except Failure FileSystem :=
  let cwd := site.workingDirectory
  let dir := scriptDirectory site
  match files.makeDirectory cwd dir with
  | .error _ => .error .noTemporaryDirectory
  | .ok made =>
    let scriptPath := dir.child application.scriptName
    match made.write cwd scriptPath application.script.toUTF8 false with
    | .error _ => .error (.noScript scriptPath)
    | .ok written => .ok written

/-- The files without the directory for the script. -/
def dropScript (site : Site) (files : FileSystem) : FileSystem :=
  match files.remove site.workingDirectory (scriptDirectory site) with
  | .ok removed => removed
  | .error _ => files

def reportPaths (application : Application) (report : PathReport) : Log.Event :=
  Log.Part.embedded.report .debug
    (application.name ++ " python " ++ Text.quoted (report.executable.getD "?") ++ " reports " ++
      toString report.paths.length ++ " paths")

/-- Runs an application to find out where its Python looks for modules. -/
def findPaths (site : Site) (application : Application) (binary : String) :
    Search (Except Failure (List String)) := do
  match ← Search.look (application.placeScript site) with
  | .error failure => pure (.error failure)
  | .ok files =>
    Search.setFiles files
    let command := application.command binary ((scriptDirectory site).child application.scriptName)
    let output ← Search.run site.host command none
    let files ← Search.look (dropScript site)
    Search.setFiles files
    match application.judge command output with
    | .error failure => pure (.error failure)
    | .ok report =>
      Search.report (reportPaths application report)
      pure (.ok report.paths)

/-- Finds the paths of an application and puts them in front of the extra paths. A failure leaves
the settings as they are. -/
def apply (site : Site) (application : Application) (binary : String) (settings : Json) :
    Search (Except Failure Json) := do
  match ← application.findPaths site binary with
  | .error failure => pure (.error failure)
  | .ok paths =>
    let settings ← Settings.injectReporting .prepend paths settings
    pure (.ok settings)

end Application

end EnvScout
