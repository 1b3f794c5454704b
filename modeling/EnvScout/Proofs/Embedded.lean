import EnvScout.Embedded
import EnvScout.Proofs.Search

/-!
Which applications there are, and in what ways running one can fail: not by its name, which has been
looked up before anything is run.
-/

namespace EnvScout

namespace Application

theorem isSome_ofName?_iff {name : String} :
    (ofName? name).isSome = true ↔ name = "blender" ∨ name = "gdb" := by
  constructor
  · intro h
    obtain ⟨application, hfound⟩ := Option.isSome_iff_exists.mp h
    have hname : application.name = name := by simpa using List.find?_some hfound
    cases application with
    | blender => exact .inl hname.symm
    | gdb => exact .inr hname.symm
  · rintro (rfl | rfl) <;> rfl

/-- The result is not a complaint about the name of an application. -/
def KnowsName {α : Type} (result : Except Failure α) : Prop :=
  ∀ name, result ≠ .error (.unknownApplication name)

theorem knowsName_ok {α : Type} (a : α) : KnowsName (.ok a) := by
  intro name h
  cases h

theorem KnowsName.error {α β : Type} {failure : Failure}
    (h : KnowsName (.error failure : Except Failure α)) :
    KnowsName (.error failure : Except Failure β) := by
  intro name heq
  cases heq
  exact h name rfl

theorem knowsName_placeScript (application : Application) (site : Site) (files : FileSystem) :
    KnowsName (application.placeScript site files) := by
  intro name h
  unfold placeScript at h
  cases hmade : files.makeDirectory site.workingDirectory (scriptDirectory site) with
  | error _ => simp [hmade] at h
  | ok made =>
      simp only [hmade] at h
      generalize made.write _ _ _ false = written at h
      cases written <;> simp at h

theorem knowsName_readReport (application : Application) (stdout : String) :
    KnowsName (application.readReport stdout) := by
  intro name h
  simp only [readReport] at h
  split at h
  · cases h
  · split at h <;> cases h

theorem knowsName_judge (application : Application) (command : Command) (output : Option Output) :
    KnowsName (application.judge command output) := by
  intro name h
  cases output with
  | none => cases h
  | some output =>
      rw [judge] at h
      split at h
      · exact knowsName_readReport application output.stdout name h
      · cases h

open Search

theorem knowsName_findPaths (site : Site) (application : Application) (binary : String) :
    Gives (findPaths site application binary) KnowsName := by
  unfold findPaths
  refine Gives.bind (gives_look (knowsName_placeScript application site)) fun placed hplaced => ?_
  cases placed with
  | error failure => exact gives_pure hplaced.error
  | ok files =>
      refine gives_bind fun _ => gives_bind fun output => gives_bind fun _ => gives_bind fun _ => ?_
      have hjudged := knowsName_judge application
        (application.command binary ((scriptDirectory site).child application.scriptName)) output
      revert hjudged
      generalize application.judge _ output = judged
      intro hjudged
      cases judged with
      | error failure => exact gives_pure hjudged.error
      | ok report => exact gives_bind fun _ => gives_pure (knowsName_ok report.paths)

theorem knowsName_apply (site : Site) (application : Application) (binary : String)
    (settings : Json) : Gives (application.apply site binary settings) KnowsName := by
  unfold apply
  refine Gives.bind (knowsName_findPaths site application binary) fun found hfound => ?_
  cases found with
  | error failure => exact gives_pure hfound.error
  | ok paths => exact gives_bind fun settings => gives_pure (knowsName_ok settings)

end Application

end EnvScout
