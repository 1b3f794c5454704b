import EnvScout.Json.Value
import EnvScout.Path.Basic

/-!
The list `analysis.extraPaths` in the settings of a language server. Settings are any JSON value;
the list can be worked on when they are an object in which the list is there, is null, or can be
made. Entries that are the same path are kept once, the first of them.
-/

namespace EnvScout.Settings

/-- How new paths go together with those already listed. -/
inductive MergeOrder where
  | prepend
  | append
  | replace
  deriving DecidableEq

def MergeOrder.label : MergeOrder → String
  | prepend => "Prepend"
  | append => "Append"
  | replace => "Replace"

abbrev Members := List (String × Json)

/-- The list as it stands, empty where it is missing; none where something else is in its place. -/
def extraPaths? (members : Members) : Option (List Json) :=
  match members.lookup "analysis" with
  | none => some []
  | some (.object analysis) =>
    match analysis.lookup "extraPaths" with
    | none => some []
    | some .null => some []
    | some (.array items) => some items
    | some _ => none
  | some _ => none

/-- The settings with the list set. -/
def setExtraPaths (members : Members) (items : List Json) : Members :=
  let analysis := match members.lookup "analysis" with
    | some (.object analysis) => analysis
    | _ => []
  Json.setMember "analysis" (.object (Json.setMember "extraPaths" (.array items) analysis)) members

/-- The texts of which none is the same path as one before it or as one of `seen`. -/
def firstsAfter (seen : List Path) : List String → List String
  | [] => []
  | text :: rest =>
    if seen.any fun p => p.Same (.ofText text) then firstsAfter seen rest
    else text :: firstsAfter (.ofText text :: seen) rest

/-- The first occurrence of each path. -/
def firsts (texts : List String) : List String :=
  firstsAfter [] texts

def merge (order : MergeOrder) (new current : List String) : List String :=
  firsts (match order with
    | .prepend => new ++ current
    | .append => current ++ new
    | .replace => new)

/-- The list after new paths are merged into it. What is no text is dropped. -/
def mergedPaths (order : MergeOrder) (new : List String) (items : List Json) : List String :=
  merge order new (items.filterMap Json.string?)

/-- The settings with paths merged into the list. Settings that have no place for them stay as they
are. -/
def inject (order : MergeOrder) (paths : List String) : Json → Json
  | .object members =>
    match extraPaths? members with
    | some items =>
      .object (setExtraPaths members ((mergedPaths order paths items).map Json.string))
    | none => .object members
  | settings => settings

end EnvScout.Settings
