import EnvScout.Embedded
import EnvScout.Resolution

/-!
The configuration of a search, as a value and as JSON text. A text is read in one pass and then
validated; a configuration written out and read again is the same.
-/

namespace EnvScout

/-- An application whose Python is to be looked into. -/
structure ApplicationSetting where
  name : String
  binary : String
  deriving DecidableEq

structure Config where
  /-- The finders to try, by name and in order. -/
  finderNames : List String
  /-- An interpreter to use outright. -/
  explicitPath : Option String
  application : Option ApplicationSetting
  deriving DecidableEq

inductive ConfigError where
  | io (file : Path) (error : FileError)
  | parse (error : Json.DecodeError)
  | emptyFinderName
  | unknownApplication (name : String)
  | emptyBinary

namespace ConfigError

def message : ConfigError → String
  | io file error => "IO error: " ++ file.shown ++ ": " ++ error.message
  | parse error => "Parse error: " ++ error.message
  | emptyFinderName => "Validation error: finder_names cannot contain empty names"
  | unknownApplication name =>
    "Validation error: unknown dev_environment: " ++ Text.quoted name
  | emptyBinary => "Validation error: dev_environment.binary cannot be empty"

end ConfigError

namespace Config

open Json

def default : Config :=
  ⟨Finder.names, none, none⟩

instance : Inhabited Config :=
  ⟨default⟩

/-- The interpreter to use outright, if it is set to something. -/
def explicit? (config : Config) : Option String :=
  config.explicitPath.filter fun path => path != ""

structure ApplicationDraft where
  name : Option String := none
  binary : Option String := none

def applicationFields : List (Decoder.Field ApplicationDraft) := [
  { name := "name", aliases := [], isOptional := false,
    isSet := fun draft => draft.name.isSome,
    read := fun draft => Decoder.into .string fun value =>
      { draft with name := some value } },
  { name := "binary", aliases := [], isOptional := false,
    isSet := fun draft => draft.binary.isSome,
    read := fun draft => Decoder.into .string fun value =>
      { draft with binary := some value } }]

def applicationSetting : Decoder ApplicationSetting
  | tokens =>
    match Decoder.record "DevEnvironmentConfig" applicationFields {} tokens with
    | .ok (draft, rest) => .ok (⟨draft.name.getD "", draft.binary.getD ""⟩, rest)
    | .error e => .error e

/-- What has been read; an outer `none` is a member that has not come yet. -/
structure Draft where
  finderNames : Option (List String) := none
  explicitPath : Option (Option String) := none
  application : Option (Option ApplicationSetting) := none

def fields : List (Decoder.Field Draft) := [
  { name := "finder_names", aliases := ["venvStrategies"], isOptional := true,
    isSet := fun draft => draft.finderNames.isSome,
    read := fun draft => Decoder.into (Decoder.list .string) fun value =>
      { draft with finderNames := some value } },
  { name := "explicit_python_path", aliases := ["pythonPath"], isOptional := true,
    isSet := fun draft => draft.explicitPath.isSome,
    read := fun draft => Decoder.into (Decoder.optional .string) fun value =>
      { draft with explicitPath := some value } },
  { name := "dev_environment", aliases := [], isOptional := true,
    isSet := fun draft => draft.application.isSome,
    read := fun draft => Decoder.into (Decoder.optional applicationSetting) fun value =>
      { draft with application := some value } }]

/-- Members that have not come have their defaults. -/
def ofDraft (draft : Draft) : Config :=
  ⟨draft.finderNames.getD Finder.names, draft.explicitPath.join, draft.application.join⟩

/-- The first fault of a configuration. Names of no finder are none. -/
def fault? (config : Config) : Option ConfigError :=
  if config.finderNames.any Text.isBlankText then some .emptyFinderName
  else match config.application with
    | none => none
    | some setting =>
      if (Application.ofName? setting.name).isNone then some (.unknownApplication setting.name)
      else if Text.isBlankText setting.binary then some .emptyBinary
      else none

def validate (config : Config) : Except ConfigError Unit :=
  match config.fault? with
  | some error => .error error
  | none => .ok ()

/-- Reads and validates the text of a configuration. -/
def ofText (text : String) : Except ConfigError Config :=
  match Decoder.decode (Decoder.record "VenvConfig" fields {}) text with
  | .error error => .error (.parse error)
  | .ok draft =>
    match (ofDraft draft).fault? with
    | some error => .error error
    | none => .ok (ofDraft draft)

/-- Reads and validates the configuration in a file. -/
def load (cwd : List String) (file : Path) : Search (Except ConfigError Config) := do
  match ← Search.look fun files => files.readText cwd file with
  | .error error => pure (.error (.io file error))
  | .ok text =>
    Search.report (Log.Part.config.report .debug
      ("Loaded venv config from " ++ Text.quotedPath file.text))
    pure (ofText text)

def ApplicationSetting.toJson (setting : ApplicationSetting) : Json :=
  .object [("name", .string setting.name), ("binary", .string setting.binary)]

def toJson (config : Config) : Json :=
  .object ([
    ("finder_names", Json.ofStrings config.finderNames),
    ("explicit_python_path", Json.ofOption config.explicitPath)] ++
    match config.application with
    | some setting => [("dev_environment", ApplicationSetting.toJson setting)]
    | none => [])

/-- The text of a configuration. -/
def text (config : Config) : String :=
  config.toJson.text

/-- Puts the paths of the configured application, if there is one, in front of the extra paths. The
result says whether there is one. -/
def applyApplication (site : Site) (config : Config) (settings : Json) :
    Search (Except Application.Failure (Bool × Json)) := do
  match config.application with
  | none => pure (.ok (false, settings))
  | some setting =>
    match Application.ofName? setting.name with
    | none => pure (.error (.unknownApplication setting.name))
    | some application =>
      match ← application.apply site (Text.trimmed setting.binary) settings with
      | .ok settings => pure (.ok (true, settings))
      | .error failure => pure (.error failure)

/-- The environment of a project, by a configuration. -/
def resolve (site : Site) (config : Config) (project : Path) : Search (Option Venv) := do
  let resolution ← Resolution.resolve site project config.finderNames config.explicit?
  pure resolution.venv

end Config

end EnvScout
