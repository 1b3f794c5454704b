import EnvScout.Config.Basic

/-!
The schema of the configuration, by which an editor checks and completes settings.
-/

namespace EnvScout.Config.Schema

/-- The dialect the schema is written in, by its address. -/
def dialect : String :=
  "/".intercalate ["https:", "", "json-schema.org", "draft", "2020-12", "schema"]

def typed (name : String) : Json :=
  .object [("type", .string name)]

def described (description type : String) : List (String × Json) :=
  [("description", .string description), ("type", .string type)]

def finderNamesText : String :=
  "Finder names to try, in order. Unknown names are ignored with a\n" ++
    "warning. Defaults to every finder in priority order."

def explicitPathText : String :=
  "Interpreter to use instead of probing.\n" ++
    "When non-empty, no finder runs even if this interpreter is not in a\n" ++
    "venv. Surrounding whitespace is ignored, so a value made only of\n" ++
    "whitespace resolves to nothing."

def applicationText : String :=
  "Embedded Python whose `sys.path` is added to `analysis.extraPaths`"

/-- The list of finder names; `item` describes one name. -/
def finderNames (item : Json) : Json :=
  .object (described finderNamesText "array" ++
    [("items", item), ("default", Json.ofStrings Finder.names)])

def explicitPath : Json :=
  .object [
    ("description", .string explicitPathText),
    ("type", Json.ofStrings ["string", "null"]),
    ("default", .null)]

def application : Json :=
  .object [
    ("description", .string applicationText),
    ("anyOf", .array [
      .object [("$ref", .string "#/$defs/DevEnvironmentConfig")],
      typed "null"])]

def applicationDefinition : Json :=
  .object (described "Dev environment settings" "object" ++ [
    ("properties", .object [
      ("name", .object (described "Environment name (`blender` or `gdb`)" "string")),
      ("binary", .object (described "Executable to run, e.g. `/opt/blender/blender`" "string"))]),
    ("required", Json.ofStrings ["name", "binary"])])

/-- The schema, with a description of one finder name. -/
def withNames (item : Json) : Json :=
  .object [
    ("$schema", .string dialect),
    ("title", .string "VenvConfig"),
    ("description", .string "Settings that drive virtual environment resolution."),
    ("type", .string "object"),
    ("properties", .object [
      ("finder_names", finderNames item),
      ("explicit_python_path", explicitPath),
      ("dev_environment", application)]),
    ("$defs", .object [("DevEnvironmentConfig", applicationDefinition)])]

/-- The schema of a configuration. -/
def schema : Json :=
  withNames (typed "string")

/-- The schema for editors, which lists the finder names so that they can be completed. -/
def forEditors : Json :=
  withNames (.object [("type", .string "string"), ("enum", Json.ofStrings Finder.names)])

end EnvScout.Config.Schema
