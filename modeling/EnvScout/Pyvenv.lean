import EnvScout.Files.Lookup
import EnvScout.Search
import EnvScout.Table
import EnvScout.Text.Blank
import EnvScout.Text.Case
import EnvScout.Text.Quoted

/-!
The file `pyvenv.cfg`: a flat list of keys with values. `=` or `:` stands between a key and its
value, keys do not depend on letter case, and `#` or `;` begins a comment. An indented line goes on
with the value above it until a blank line or a line without a key closes that value.
-/

namespace EnvScout

structure Pyvenv where
  entries : Table

namespace Pyvenv

open Text

def empty : Pyvenv :=
  ⟨.empty⟩

/-- What has been read so far, and the key whose value an indented line goes on with. -/
structure Reading where
  entries : Table
  openKey : Option String

def isSeparator (c : Char) : Bool :=
  c == '=' || c == ':'

def isCommentMark (c : Char) : Bool :=
  c == '#' || c == ';'

/-- A value with a further line. -/
def extend (value : String) (line : List Char) : String :=
  if value = "" then String.ofList line else value ++ "\n" ++ String.ofList line

/-- A line that may hold a key and a value; it is given without the white space around it. -/
def Reading.assign (reading : Reading) (line : List Char) : Reading :=
  match line.dropWhile fun c => !isSeparator c with
  | [] => { reading with openKey := none }
  | _ :: value =>
    let key := String.ofList (lower (trim (line.takeWhile fun c => !isSeparator c)))
    if key = "" then { reading with openKey := none }
    else ⟨reading.entries.set key (String.ofList (trim value)), some key⟩

/-- Takes in one line. -/
def Reading.step (reading : Reading) (line : List Char) : Reading :=
  match trim line with
  | [] => { reading with openKey := none }
  | first :: rest =>
    if isCommentMark first then reading
    else
      let continued := do
        let key ← if line.head?.any isBlank then reading.openKey else none
        let value ← reading.entries.get? key
        pure (key, value)
      match continued with
      | some (key, value) =>
        { reading with entries := reading.entries.set key (extend value (first :: rest)) }
      | none => reading.assign (first :: rest)

/-- The configuration a text gives. A carriage return at the end of a line is white space there. -/
def parse (text : String) : Pyvenv :=
  ⟨((splitOn '\n' text.toList).foldl Reading.step ⟨.empty, none⟩).entries⟩

/-- The value of a key, whatever its letter case. -/
def get? (cfg : Pyvenv) (key : String) : Option String :=
  cfg.entries.get? (lowered key)

/-- The value of a key as a truth value. -/
def getBool? (cfg : Pyvenv) (key : String) : Option Bool :=
  match (cfg.get? key).map asciiLowered with
  | some "true" => some true
  | some "false" => some false
  | _ => none

def getNonEmpty? (cfg : Pyvenv) (key : String) : Option String :=
  (cfg.get? key).filter fun value => value != ""

def prompt? (cfg : Pyvenv) : Option String :=
  cfg.getNonEmpty? "prompt"

/-- The Python version, which is under one of two keys depending on what made the environment. -/
def version? (cfg : Pyvenv) : Option String :=
  cfg.getNonEmpty? "version" <|> cfg.getNonEmpty? "version_info"

def includesSystem (cfg : Pyvenv) : Bool :=
  (cfg.getBool? "include-system-site-packages").getD false

def isEmpty (cfg : Pyvenv) : Bool :=
  cfg.entries.isEmpty

/-- The configuration in a file; a file that cannot be read gives an empty one. -/
def ofFile (files : FileSystem) (cwd : List String) (p : Path) : Pyvenv :=
  match files.readText cwd p with
  | .ok text => parse text
  | .error _ => empty

/-- Reads a configuration file; a failure is reported. -/
def load (cwd : List String) (p : Path) : Search Pyvenv := do
  match ← Search.look fun files => files.readText cwd p with
  | .ok text => pure (parse text)
  | .error e =>
    Search.report (Log.Part.pyvenv.report .debug
      ("Failed to read " ++ quotedPath p.text ++ ": " ++ e.message))
    pure empty

end Pyvenv

end EnvScout
