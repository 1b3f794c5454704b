import EnvScout.Json.Place
import EnvScout.Search
import EnvScout.Text.Replace

/-!
What `conda info --json` says about the active environment. Its Python version is in the long
spelling of five parts and is brought into the short one.
-/

namespace EnvScout

structure CondaInfo where
  activePrefix : Option String
  activePrefixName : Option String
  condaVersion : Option String
  pythonVersion : Option String
  environments : List String
  deriving DecidableEq

namespace CondaInfo

open Json

/-- What has been read of the report; an outer `none` is a member that has not come yet. -/
structure Draft where
  activePrefix : Option (Option String) := none
  activePrefixName : Option (Option String) := none
  condaVersion : Option (Option String) := none
  pythonVersion : Option (Option String) := none
  environments : Option (List String) := none

def fields : List (Decoder.Field Draft) := [
  { name := "active_prefix", aliases := [], isOptional := true,
    isSet := fun draft => draft.activePrefix.isSome,
    read := fun draft => Decoder.into (Decoder.optional .string) fun value =>
      { draft with activePrefix := some value } },
  { name := "active_prefix_name", aliases := [], isOptional := true,
    isSet := fun draft => draft.activePrefixName.isSome,
    read := fun draft => Decoder.into (Decoder.optional .string) fun value =>
      { draft with activePrefixName := some value } },
  { name := "conda_version", aliases := [], isOptional := true,
    isSet := fun draft => draft.condaVersion.isSome,
    read := fun draft => Decoder.into (Decoder.optional .string) fun value =>
      { draft with condaVersion := some value } },
  { name := "python_version", aliases := [], isOptional := true,
    isSet := fun draft => draft.pythonVersion.isSome,
    read := fun draft => Decoder.into (Decoder.optional .string) fun value =>
      { draft with pythonVersion := some value } },
  { name := "envs", aliases := [], isOptional := true,
    isSet := fun draft => draft.environments.isSome,
    read := fun draft => Decoder.into (Decoder.list .string) fun value =>
      { draft with environments := some value } }]

def ofDraft (draft : Draft) : CondaInfo where
  activePrefix := draft.activePrefix.join
  activePrefixName := draft.activePrefixName.join
  condaVersion := draft.condaVersion.join
  pythonVersion := draft.pythonVersion.join
  environments := draft.environments.getD []

def decode (text : String) : Except DecodeError CondaInfo :=
  (Decoder.decode (Decoder.record "CondaInfo" fields {}) text).map ofDraft

def parse? (text : String) : Option CondaInfo :=
  match decode text with
  | .ok info => some info
  | .error _ => none

/-- The short spelling of a version: `3.11.5.final.0` is `3.11.5`, and a pre-release keeps its kind
as a letter or two and its number. -/
def normalizeVersion (version : String) : String :=
  let short := Text.replace ".candidate.".toList "rc".toList
    (Text.replace ".beta.".toList "b".toList
      (Text.replace ".alpha.".toList "a".toList version.toList))
  match Text.cutAt ".final.".toList short with
  | some (release, _) => String.ofList release
  | none => String.ofList short

def normalizedVersion (info : CondaInfo) : String :=
  match info.pythonVersion with
  | some version => normalizeVersion version
  | none => ""

def command : Command :=
  ⟨⟨"conda"⟩, ["info", "--json"]⟩

/-- Asks `conda`. A run that fails or says nothing of use gives nothing. -/
def query (host : Host) : Search (Option CondaInfo) := do
  match ← Search.run host command none with
  | none => pure none
  | some output =>
    if !output.success || output.stdout == "" then
      Search.report (Log.Part.conda.report .debug
        ("(" ++ command.line ++ ") exited with " ++ toString output.exitCode))
      pure none
    else match decode output.stdout with
      | .ok info => pure (some info)
      | .error e =>
        Search.report (Log.Part.conda.report .debug
          ("Failed to parse conda info: " ++ e.messageIn output.stdout))
        pure none

end CondaInfo

end EnvScout
