import EnvScout.Proofs.Finder.Finding
import EnvScout.Proofs.Venv.Place

/-!
Where the answer of a tool leads. It is meant to be read as relative to the project, with a tilde
standing for the home directory, so that the working directory has no part in it. An answer that
begins with a tilde is handed on as it is, to be expanded later, and a name may begin with one too.
-/

namespace EnvScout

open Search

namespace Finder

open Venv

/-- The directory whose environment is to be had from a place that is given in this form. -/
def directoryOf? (form : AnswerForm) (place : Path) : Option Path :=
  match form with
  | .interpreter => directoryOfPython? place
  | _ => some place

/-- The directory of the environment that such a place leads to. -/
def leadsTo? (site : Site) (files : FileSystem) (form : AnswerForm) (place : Path) : Option Path :=
  (directoryOf? form place).bind (environmentAt? site files .pep405)

/-- Where an answer is meant to lead: a tilde alone or in front of a separator stands for the home
directory, where one is known, and every other answer is relative to the project, unless it is
absolute. -/
def meantPlace (home : Option Path) (project : Path) (answer : String) : Path :=
  match home, behindTilde? answer with
  | some home, some rest => home.join (.ofText rest)
  | _, _ => project.join (.ofText answer)

/-- The answer begins with a tilde that is part of a name. -/
def IsTildeName (answer : String) : Prop :=
  answer.toList.head? = some '~' ∧ behindTilde? answer = none

instance (answer : String) : Decidable (IsTildeName answer) :=
  inferInstanceAs (Decidable (_ ∧ _))

variable (site : Site) (finder : Finder) {tool : Tool} (files : FileSystem)

theorem value_venvOfAnswer (form : AnswerForm) (place : Path) :
    (venvOfAnswer site form place).value files =
      (directoryOf? form place).bind fun dir => (ofDirectory site .pep405 dir).value files := by
  cases form with
  | interpreter =>
      show (ofPython site .pep405 place).value files = (directoryOfPython? place).bind _
      rw [ofPython]
      cases directoryOfPython? place <;> rfl
  | _ => rfl

theorem value_venvOfAnswer_eq_map (form : AnswerForm) (place : Path) :
    (venvOfAnswer site form place).value files =
      (leadsTo? site files form place).map fun dir => (describe site .pep405 dir).value files := by
  rw [value_venvOfAnswer, leadsTo?]
  simp only [value_ofDirectory_eq_map, Option.map_bind]
  rfl

variable {site} {project : Path} {answer : String}

theorem isAbsolute_meantPlace
    (hhome : (behindTilde? answer).isSome → site.home.any Path.isAbsolute = true)
    (hproject : project.isAbsolute = true) :
    (meantPlace site.home project answer).isAbsolute = true := by
  rw [meantPlace.eq_def]
  split
  · rename_i home rest hknown hrest
    obtain ⟨known, hsame, habsolute⟩ :=
      (Option.any_eq_true _ _).mp (hhome (Option.isSome_of_eq_some hrest))
    obtain rfl : known = home := Option.some.inj (hsame.symm.trans hknown)
    exact Path.isAbsolute_join habsolute _
  · exact Path.isAbsolute_join hproject _

theorem isAbsolute_of_directoryOf? {form : AnswerForm} {place dir : Path}
    (hplace : place.isAbsolute = true) (h : directoryOf? form place = some dir) :
    dir.isAbsolute = true := by
  cases form with
  | interpreter => exact isAbsolute_of_directoryOfPython? hplace h
  | _ =>
      cases h
      exact hplace

/-- Once its tilde is expanded, the directory an answer is read as is absolute, unless the answer is
a tilde name. -/
theorem isAbsolute_expandTilde_of_directoryOf?
    (hhome : (behindTilde? answer).isSome → site.home.any Path.isAbsolute = true)
    (hproject : project.isAbsolute = true) (hname : ¬IsTildeName answer) {form : AnswerForm}
    {dir : Path} (h : directoryOf? form (answerPath project answer) = some dir) :
    (expandTilde site.home dir).isAbsolute = true := by
  rw [answerPath] at h
  split at h
  · rename_i htilde
    have hsome : (behindTilde? answer).isSome :=
      Option.ne_none_iff_isSome.mp fun hnone => hname ⟨htilde, hnone⟩
    have hanswer : (Path.ofText answer).behindTilde?.isSome := by
      rwa [behindTilde?_ofText, Option.isSome_map]
    have hdir : dir.behindTilde?.isSome := by
      cases form with
      | interpreter =>
          have hread : directoryOfPython? (.ofText answer) = some dir := h
          obtain ⟨htext, hbehind⟩ := Path.isSome_behindTilde?_iff.mp hanswer
          obtain ⟨hfront, hne⟩ := toList_isPrefix_of_directoryOfPython? hread
          exact Path.isSome_behindTilde?_iff.mpr ⟨isText_of_directoryOfPython? htext hread,
            isSome_behindTilde?_of_isPrefix hbehind hfront hne⟩
      | _ =>
          cases h
          exact hanswer
    obtain ⟨rest, hrest⟩ := Option.isSome_iff_exists.mp hdir
    obtain ⟨home, hknown, habsolute⟩ := (Option.any_eq_true _ _).mp (hhome hsome)
    rw [expandTilde_eq, hrest, hknown]
    exact Path.isAbsolute_join habsolute _
  · have hdir := isAbsolute_of_directoryOf? (Path.isAbsolute_join hproject _) h
    rw [expandTilde_of_isAbsolute hdir]
    exact hdir

/-- The working directory has no part in what a place comes to, where it is absolute in the end. -/
theorem value_venvOfAnswer_at {form : AnswerForm} {place : Path}
    (h : ∀ dir, directoryOf? form place = some dir →
      (expandTilde site.home dir).isAbsolute = true) (cwd : List String) :
    (venvOfAnswer (site.at cwd) form place).value files =
      (venvOfAnswer site form place).value files := by
  rw [value_venvOfAnswer, value_venvOfAnswer]
  exact Option.bind_congr fun dir hdir => value_ofDirectory_at files .pep405 (h dir hdir) cwd

/-- An interpreter at least three steps behind a tilde has the same directory whether the tilde is
expanded before or after the levels are taken off. -/
theorem exists_directoryOfPython?_behind {home : Path} {rest : String}
    (hrest : behindTilde? answer = some rest) (hdeep : 3 ≤ (Path.ofText rest).steps.length)
    (habsolute : home.isAbsolute = true) :
    ∃ dir front, directoryOfPython? (.ofText answer) = some dir ∧
      dir.behindTilde? = some front ∧
      directoryOfPython? (home.join (.ofText rest)) = some (home.join ⟨front⟩) := by
  have hbytes : behindTilde? (Path.ofText answer).text = some (Path.ofText rest).text := by
    rw [Path.ofText, behindTilde?_encoded, hrest]
    rfl
  obtain ⟨front, hne, hprefix, htwoUp⟩ := exists_directoryOfPython?_append hdeep
  obtain ⟨tilde, htext, hcut⟩ := exists_tilde_of_behindTilde? hbytes
  obtain ⟨written, hjoin⟩ := Path.exists_join_eq habsolute
  have hbehind : behindTilde? (tilde ++ front) = some front := hcut front hne hprefix
  have hread : directoryOfPython? (.ofText answer) = some ⟨tilde ++ front⟩ := by
    rw [show Path.ofText answer = ⟨tilde ++ (Path.ofText rest).text⟩ from congrArg Path.mk htext]
    exact htwoUp tilde
  refine ⟨⟨tilde ++ front⟩, front, hread, ?_, ?_⟩
  · rw [Path.behindTilde?, isText_of_directoryOfPython? (Path.isText_ofText answer) hread,
      if_pos rfl, hbehind]
  · rw [hjoin _ (not_isAbsolute_of_behindTilde? hbytes),
      hjoin _ (not_isAbsolute_of_behindTilde? hbehind)]
    exact htwoUp written

/-- An answer that is no tilde name leads where it is meant to, an interpreter behind a tilde if it
is three steps behind it. -/
theorem leadsTo?_answerPath (site : Site) (files : FileSystem)
    (hhome : (behindTilde? answer).isSome → site.home.any Path.isAbsolute = true)
    (hname : ¬IsTildeName answer) {form : AnswerForm}
    (hdeep : form = .interpreter → ∀ rest, behindTilde? answer = some rest →
      3 ≤ (Path.ofText rest).steps.length) :
    leadsTo? site files form (answerPath project answer) =
      leadsTo? site files form (meantPlace site.home project answer) := by
  by_cases htilde : answer.toList.head? = some '~'
  · obtain ⟨rest, hrest⟩ := Option.ne_none_iff_exists'.mp fun hnone => hname ⟨htilde, hnone⟩
    obtain ⟨home, hknown, habsolute⟩ :=
      (Option.any_eq_true _ _).mp (hhome (Option.isSome_of_eq_some hrest))
    have hexpand : ∀ {p : Path} {front}, p.behindTilde? = some front →
        environmentAt? site files .pep405 p =
          environmentAt? site files .pep405 (home.join ⟨front⟩) := by
      intro p front hfront
      refine environmentAt?_congr files .pep405 ?_
      rw [expandTilde_eq, hfront, hknown,
        expandTilde_of_isAbsolute (Path.isAbsolute_join habsolute _)]
    rw [answerPath, if_pos htilde, meantPlace.eq_def, hrest, hknown]
    cases form with
    | interpreter =>
        obtain ⟨dir, front, hread, hfront, hmeant⟩ :=
          exists_directoryOfPython?_behind hrest (hdeep rfl rest hrest) habsolute
        simp only [leadsTo?, directoryOf?, hread, hmeant, Option.bind_some]
        exact hexpand hfront
    | _ =>
        simp only [leadsTo?, directoryOf?, Option.bind_some]
        exact hexpand (by rw [behindTilde?_ofText, hrest]; rfl)
  · have hnone : behindTilde? answer = none := by
      rw [Option.eq_none_iff_forall_ne_some]
      intro rest hrest
      exact htilde (head?_of_behindTilde? hrest)
    rw [answerPath, if_neg htilde, meantPlace.eq_def, hnone]
    cases site.home <;> rfl

theorem value_find_of_answer (site : Site) {finder : Finder} (htool : finder.tool? = some tool)
    (hanswer : (asked site tool project files).output.bind tool.answer = some answer) :
    (find site finder project).value files =
      (venvOfAnswer site tool.form (answerPath project answer)).value
        (asked site tool project files).files := by
  rw [find_of_tool? site finder tool project htool, value_findWithTool_asked, hanswer,
    Option.bind_some]

/-- What a tool answers is meant to be read as relative to the project, and what is meant does not
depend on the working directory. The environment found is the one that is meant just when the answer
as it is read leads to the same directory. That is so unless the answer begins with a tilde that is
part of a name, or names an interpreter less than three steps behind its tilde; and of the two only
a tilde name is looked up from the working directory. -/
theorem find_by_answer (htool : finder.tool? = some tool)
    (hhome : (behindTilde? answer).isSome → site.home.any Path.isAbsolute = true)
    (hproject : project.isAbsolute = true)
    (hanswer : (asked site tool project files).output.bind tool.answer = some answer) :
    let after := (asked site tool project files).files
    let place := meantPlace site.home project answer
    let found := (find site finder project).value files
    let meant := (venvOfAnswer site tool.form place).value after
    (∀ cwd, (venvOfAnswer (site.at cwd) tool.form place).value after = meant) ∧
    (found = meant ↔
      leadsTo? site after tool.form (answerPath project answer) =
        leadsTo? site after tool.form place) ∧
    (¬IsTildeName answer → (tool.form = .interpreter → ∀ rest, behindTilde? answer = some rest →
      3 ≤ (Path.ofText rest).steps.length) → found = meant) ∧
    (¬IsTildeName answer → ∀ cwd, (find (site.at cwd) finder project).value files = found) := by
  intro after place found meant
  have hfound : found = (venvOfAnswer site tool.form (answerPath project answer)).value after :=
    value_find_of_answer files site htool hanswer
  have hiff : found = meant ↔
      leadsTo? site after tool.form (answerPath project answer) =
        leadsTo? site after tool.form place := by
    rw [hfound, value_venvOfAnswer_eq_map, show meant = _ from value_venvOfAnswer_eq_map ..]
    exact (map_describe_injective site after .pep405).eq_iff
  refine ⟨fun cwd => value_venvOfAnswer_at after (fun dir hdir => ?_) cwd, hiff,
    fun hname hdeep => hiff.mpr (leadsTo?_answerPath site after hhome hname hdeep),
    fun hname cwd => ?_⟩
  · have hplace := isAbsolute_meantPlace hhome hproject
    have habsolute := isAbsolute_of_directoryOf? hplace hdir
    rw [expandTilde_of_isAbsolute habsolute]
    exact habsolute
  · rw [hfound, value_find_of_answer files (site.at cwd) htool hanswer]
    exact value_venvOfAnswer_at after
      (fun dir hdir => isAbsolute_expandTilde_of_directoryOf? hhome hproject hname hdir) cwd

section Tildes

/-- An environment in the home directory, and one in a project with a tilde in its name. -/
def tildeProject : FileSystem :=
  let venv : Node := .directory [("bin", .directory [("python", .file ⟨#[]⟩ false)]),
    ("pyvenv.cfg", .file ⟨#[]⟩ false)]
  ⟨.directory [("home", .directory [("env", venv)]), ("project", .directory [("~env", venv)])], []⟩

/-- A site where tools give this answer. -/
def answeringSite (answer : String) : Site where
  host := Script.host ⟨[], ["poetry", "pdm"], [],
    [("poetry", ⟨answer, "", 0⟩), ("pdm", ⟨answer, "", 0⟩)]⟩
  home := some ⟨"/home"⟩
  workingDirectory := []
  temporaryDirectory := ⟨"/tmp"⟩
  temporaryMark := ""

/-- An interpreter behind a tilde is found in the home directory, wherever it is asked for. -/
theorem interpreter_behind_tilde_found :
    ((find ((answeringSite "~/env/bin/python").at ["project", "~env"]) .pdm ⟨"/project"⟩).value
      tildeProject).map Venv.directory = some ⟨"/home/env"⟩ := by
  obtain ⟨-, -, hmeant, hsame⟩ := find_by_answer .pdm tildeProject rfl
    (fun _ => (by decide : (answeringSite "~/env/bin/python").home.any Path.isAbsolute = true))
    (by decide : (⟨"/project"⟩ : Path).isAbsolute = true)
    (by decide +kernel : _ = some "~/env/bin/python")
  have hname : ¬IsTildeName "~/env/bin/python" := by
    decide +kernel
  have hdeep : ∀ rest, behindTilde? "~/env/bin/python" = some rest →
      3 ≤ (Path.ofText rest).steps.length := by
    intro rest hrest
    rw [(by decide +kernel : behindTilde? "~/env/bin/python" = some "env/bin/python")] at hrest
    cases hrest
    decide +kernel
  rw [hsame hname, hmeant hname fun _ => hdeep]
  decide +kernel

/-- A tilde name is looked up from the working directory, and not in the project. -/
theorem tilde_name_not_in_project :
    ¬∀ (site : Site) (finder : Finder) (tool : Tool) (project : Path) (files : FileSystem)
      (answer : String), finder.tool? = some tool → site.home.any Path.isAbsolute = true →
      project.isAbsolute = true →
      (asked site tool project files).output.bind tool.answer = some answer →
      (find site finder project).value files =
        (venvOfAnswer site tool.form (meantPlace site.home project answer)).value
          (asked site tool project files).files ∧
      ∀ cwd, (find (site.at cwd) finder project).value files =
        (find site finder project).value files := by
  intro hclaim
  obtain ⟨hmeant, -⟩ := hclaim (answeringSite "~env") .poetry _ ⟨"/project"⟩ tildeProject "~env"
    rfl (by decide) (by decide) (by decide +kernel)
  have hfound : ((find (answeringSite "~env") .poetry ⟨"/project"⟩).value tildeProject).map
      Venv.directory = some ⟨"/project/~env"⟩ := by
    rw [hmeant]
    decide +kernel
  have hnone : ((find (answeringSite "~env") .poetry ⟨"/project"⟩).value tildeProject).map
      Venv.directory = none := by
    decide +kernel
  rw [hnone] at hfound
  cases hfound

end Tildes

end Finder

end EnvScout
