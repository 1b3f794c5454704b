import EnvScout.Proofs.Config.Described
import EnvScout.Proofs.Json.Written

/-!
A configuration written out and read again. Writing leaves a missing application out and writes a
missing path as `null`; reading puts in a default only for what is left out, so every configuration
comes back as it was, an empty list of finders and an empty path included, and is then judged like
the one that was written.
-/

namespace EnvScout.Config

open Json Json.SyntaxTree Json.Decoder

/-- The members a configuration is written with. -/
def written (config : Config) : List Member :=
  [(some "finder_names", .array (config.finderNames.map fun name => .string (some name))),
    (some "explicit_python_path", (Json.ofOption config.explicitPath).tree)] ++
    match config.application with
    | some setting =>
      [(some "dev_environment", .object [(some "name", .string (some setting.name)),
        (some "binary", .string (some setting.binary))])]
    | none => []

theorem itemTrees_map_string (texts : List String) :
    itemTrees (texts.map Json.string) = texts.map fun text => .string (some text) := by
  induction texts with
  | nil => rfl
  | cons text rest ih => rw [List.map_cons, itemTrees, ih, List.map_cons, Json.tree]

theorem tree_toJson (config : Config) : config.toJson.tree = .object config.written := by
  obtain ⟨names, path, application⟩ := config
  cases application <;>
    simp [toJson, written, Json.tree, memberTrees, ofStrings, itemTrees_map_string,
      ApplicationSetting.toJson]

theorem numberless_toJson (config : Config) : config.toJson.Numberless := by
  have hstrings : (Json.ofStrings config.finderNames).Numberless :=
    .array (List.forall_mem_map.mpr fun name _ => .string name)
  have hpath : (Json.ofOption config.explicitPath).Numberless := by
    cases config.explicitPath with
    | none => exact .null
    | some path => exact .string path
  rw [toJson]
  refine .object (List.forall_mem_append.mpr ⟨?_, ?_⟩)
  · simp [hstrings, hpath]
  · cases config.application with
    | none => exact List.forall_mem_nil _
    | some setting =>
        refine List.forall_mem_singleton.mpr (.object ?_)
        simp [Numberless.string]

theorem named_written (config : Config) : Named config.written := by
  obtain ⟨names, path, application⟩ := config
  cases application <;> simp [written]

/-- Reading puts together what was written: a path that is missing is read from `null`, and only a
missing application is not come upon. -/
theorem gather_written (config : Config) :
    gather fields {} config.written =
      some ⟨config.finderNames, some config.explicitPath, config.application.map some⟩ := by
  refine gather_fields_iff.mpr ⟨named_written config, ?_⟩
  obtain ⟨names, path, application⟩ := config
  refine ⟨filled_none_iff.mpr (.inr ⟨_, names, ?_, items?_text?_eq_some_iff.mpr rfl, rfl⟩),
    filled_none_iff.mpr (.inr ⟨(Json.ofOption path).tree, path, ?_, ?_, rfl⟩), ?_⟩
  · cases application <;> rfl
  · cases application <;> rfl
  · cases path <;> rfl
  · cases application with
    | none => rfl
    | some setting =>
        exact filled_none_iff.mpr (.inr ⟨_, some setting, rfl, rfl, rfl⟩)

theorem ofText_of_tokens {config : Config} {text : String}
    (htext : Token.ofText text = config.toJson.tree.tokens) :
    ofText text = config.validate.map fun _ => config := by
  have hconfig : ofDraft ⟨config.finderNames, some config.explicitPath,
      config.application.map some⟩ = config := by
    obtain ⟨names, path, application⟩ := config
    cases application <;> rfl
  rw [tree_toJson] at htext
  rw [ofText_of_gather htext config.gather_written, hconfig]

/-- A configuration that is written out, in either form, is read as it was if it is valid, and
refused for its first fault if it is not. -/
theorem ofText_written (config : Config) :
    ofText config.text = config.validate.map (fun _ => config) ∧
    ofText config.toJson.prettyText = config.validate.map fun _ => config :=
  ⟨ofText_of_tokens config.numberless_toJson.ofText_text,
    ofText_of_tokens config.numberless_toJson.ofText_prettyText⟩

end EnvScout.Config
