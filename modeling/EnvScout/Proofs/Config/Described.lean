import EnvScout.Proofs.Config.Reading
import EnvScout.Proofs.Config.Validity

/-!
Which objects are configurations, and of what: each field is given at most once, under whichever of
its names, and what it is given has to be a value it can hold. A text that is an object is read
exactly if it is such an object.
-/

namespace EnvScout.Config

open Json Json.SyntaxTree Json.Decoder

/-- The object with these members is a configuration, and this is the one it is. -/
structure Describes (members : List Member) (config : Config) : Prop where
  named : Named members
  finderNames :
    given ["finder_names", "venvStrategies"] members = [] ∧ config.finderNames = Finder.names ∨
    given ["finder_names", "venvStrategies"] members =
      [.array (config.finderNames.map fun name => .string (some name))] ∧
      ∀ name ∈ config.finderNames, Text.trimmed name ≠ ""
  explicitPath :
    (given ["explicit_python_path", "pythonPath"] members = [] ∨
      given ["explicit_python_path", "pythonPath"] members = [.null]) ∧
      config.explicitPath = none ∨
    ∃ path, given ["explicit_python_path", "pythonPath"] members = [.string (some path)] ∧
      config.explicitPath = some path
  application :
    (given ["dev_environment"] members = [] ∨ given ["dev_environment"] members = [.null]) ∧
      config.application = none ∨
    ∃ tree setting, given ["dev_environment"] members = [tree] ∧
      config.application = some setting ∧ Writes tree setting ∧
      (setting.name = "blender" ∨ setting.name = "gdb") ∧ Text.trimmed setting.binary ≠ ""

section Fields

variable {trees : List SyntaxTree}

theorem filled_finderNames_iff {names : List String} :
    (∃ final, Filled (items? text?) none trees final ∧ final.getD Finder.names = names) ↔
      trees = [] ∧ names = Finder.names ∨
        trees = [.array (names.map fun name => .string (some name))] := by
  constructor
  · rintro ⟨final, hfilled, rfl⟩
    rcases filled_none_iff.mp hfilled with ⟨hnil, rfl⟩ | ⟨tree, names, htree, hnames, rfl⟩
    · exact .inl ⟨hnil, rfl⟩
    · exact .inr (by rw [htree, items?_text?_eq_some_iff.mp hnames]; rfl)
  · rintro (⟨hnil, rfl⟩ | htree)
    · exact ⟨none, filled_none_iff.mpr (.inl ⟨hnil, rfl⟩), rfl⟩
    · exact ⟨some names, filled_none_iff.mpr
        (.inr ⟨_, names, htree, items?_text?_eq_some_iff.mpr rfl, rfl⟩), rfl⟩

variable {α : Type} {value? : SyntaxTree → Option α} {value : Option α}

theorem orNull?_eq_some_iff (hnull : value? .null = none) {tree : SyntaxTree} :
    orNull? value? tree = some value ↔
      tree = .null ∧ value = none ∨ ∃ found, value? tree = some found ∧ value = some found := by
  cases tree with
  | null => simp [orNull?, hnull, eq_comm]
  | _ => simp [orNull?, Option.map_eq_some_iff, @eq_comm _ value]

/-- A field that may be null is missing, null, or given one value. -/
theorem filled_orNull_iff (hnull : value? .null = none) :
    (∃ final, Filled (orNull? value?) none trees final ∧ final.join = value) ↔
      (trees = [] ∨ trees = [.null]) ∧ value = none ∨
        ∃ tree found, trees = [tree] ∧ value? tree = some found ∧ value = some found := by
  constructor
  · rintro ⟨final, hfilled, rfl⟩
    rcases filled_none_iff.mp hfilled with ⟨hnil, rfl⟩ | ⟨tree, found, htree, hfound, rfl⟩
    · exact .inl ⟨.inl hnil, rfl⟩
    · rcases (orNull?_eq_some_iff hnull).mp hfound with ⟨rfl, rfl⟩ | ⟨value, hvalue, rfl⟩
      · exact .inl ⟨.inr htree, rfl⟩
      · exact .inr ⟨tree, value, htree, hvalue, rfl⟩
  · rintro (⟨hnil | hnull, rfl⟩ | ⟨tree, found, htree, hfound, rfl⟩)
    · exact ⟨none, filled_none_iff.mpr (.inl ⟨hnil, rfl⟩), rfl⟩
    · exact ⟨some none, filled_none_iff.mpr (.inr ⟨_, none, hnull, rfl, rfl⟩), rfl⟩
    · exact ⟨some (some found), filled_none_iff.mpr
        (.inr ⟨tree, some found, htree, (orNull?_eq_some_iff hnull).mpr (.inr ⟨_, hfound, rfl⟩),
          rfl⟩), rfl⟩

end Fields

variable {text : String} {members : List Member} {config : Config}

/-- A configuration can do without any of its members. -/
theorem recordOf?_fields (members : List Member) :
    recordOf? fields {} (.object members) = gather fields {} members := by
  have hmissing : ∀ draft, missing? fields draft = none := by simp [missing?, fields]
  rw [recordOf?]
  cases gather fields {} members <;> simp [hmissing, Option.filter]

/-- Members that can be put together make a configuration, which is then judged. -/
theorem ofText_of_gather (htext : Token.ofText text = (SyntaxTree.object members).tokens)
    {draft : Draft} (hgather : gather fields {} members = some draft) :
    ofText text = (ofDraft draft).validate.map fun _ => ofDraft draft := by
  have hdecode := toOption_decode (reads_record readAlone_fields "VenvConfig" {}) htext
  rw [recordOf?_fields, hgather, toOption_eq_some_iff] at hdecode
  simp only [ofText, hdecode, validate]
  cases (ofDraft draft).fault? <;> rfl

theorem ofText_eq_ok_iff_gather (htext : Token.ofText text = (SyntaxTree.object members).tokens) :
    ofText text = .ok config ↔
      ∃ draft, gather fields {} members = some draft ∧ ofDraft draft = config ∧
        config.fault? = none := by
  cases hgather : gather fields {} members with
  | none =>
      have hdecode := toOption_decode (reads_record readAlone_fields "VenvConfig" {}) htext
      rw [recordOf?_fields, hgather] at hdecode
      obtain ⟨e, he⟩ := toOption_eq_none_iff.mp hdecode
      rw [ofText, he]
      simp
  | some draft =>
      rw [ofText_of_gather htext hgather, validate]
      cases hfault : (ofDraft draft).fault? with
      | none =>
          constructor
          · intro h
            cases h
            exact ⟨draft, rfl, rfl, hfault⟩
          · rintro ⟨_, heq, rfl, -⟩
            cases heq
            rfl
      | some error =>
          refine iff_of_false (by simp [Except.map]) ?_
          rintro ⟨_, heq, rfl, hnone⟩
          cases heq
          rw [hfault] at hnone
          cases hnone

theorem ofText_eq_ok_iff (htext : Token.ofText text = (SyntaxTree.object members).tokens) :
    ofText text = .ok config ↔ Describes members config := by
  rw [ofText_eq_ok_iff_gather htext]
  constructor
  · rintro ⟨draft, hgather, rfl, hfault⟩
    obtain ⟨hnamed, hfinders, hexplicit, happlication⟩ := gather_fields_iff.mp hgather
    obtain ⟨hblank, hsetting⟩ := fault?_eq_none_iff.mp hfault
    refine ⟨hnamed, ?_, ?_, ?_⟩
    · rcases filled_finderNames_iff.mp ⟨_, hfinders, rfl⟩ with hdefault | hgiven
      · exact .inl hdefault
      · exact .inr ⟨hgiven, hblank⟩
    · rcases (filled_orNull_iff rfl).mp ⟨_, hexplicit, rfl⟩ with
        hnone | ⟨tree, path, htree, htext, hpath⟩
      · exact .inl hnone
      · exact .inr ⟨path, by rw [htree, text?_eq_some_iff.mp htext], hpath⟩
    · rcases (filled_orNull_iff rfl).mp ⟨_, happlication, rfl⟩ with
        hnone | ⟨tree, setting, htree, hwrites, hset⟩
      · exact .inl hnone
      · exact .inr ⟨tree, setting, htree, hset, setting?_eq_some_iff.mp hwrites,
          hsetting setting hset⟩
  · rintro ⟨hnamed, hfinders, hexplicit, happlication⟩
    obtain ⟨finders, hfindersFilled, hnames⟩ :=
      filled_finderNames_iff.mpr (hfinders.imp_right And.left)
    obtain ⟨explicit, hexplicitFilled, hpath⟩ :=
      (filled_orNull_iff rfl).mpr (hexplicit.imp_right fun ⟨path, hgiven, hpath⟩ =>
        ⟨_, path, hgiven, text?_eq_some_iff.mpr rfl, hpath⟩)
    obtain ⟨application, happlicationFilled, hset⟩ :=
      (filled_orNull_iff rfl).mpr
        (happlication.imp_right fun ⟨tree, setting, hgiven, hset, hwrites, _⟩ =>
          ⟨tree, setting, hgiven, setting?_eq_some_iff.mpr hwrites, hset⟩)
    refine ⟨⟨finders, explicit, application⟩,
      gather_fields_iff.mpr ⟨hnamed, hfindersFilled, hexplicitFilled, happlicationFilled⟩,
      (Config.mk.injEq ..).mpr ⟨hnames, hpath, hset⟩, fault?_eq_none_iff.mpr ⟨?_, ?_⟩⟩
    · rcases hfinders with ⟨-, hdefault⟩ | ⟨-, hblank⟩
      · exact hdefault ▸ not_blank_of_mem_names
      · exact hblank
    · intro setting hsetting
      rcases happlication with ⟨-, hnone⟩ | ⟨_, _, -, hset, -, hvalid⟩
      · rw [hnone] at hsetting
        cases hsetting
      · rw [hset] at hsetting
        cases hsetting
        exact hvalid

end EnvScout.Config
