import EnvScout.Process
import EnvScout.Proofs.Text.Blank

/-!
What comes of running a command for real, whatever starts it. Only a command that could not be
started has no output; it has left the files alone, and an error has been reported. One that ran to
its end has an output, however it ended, and it is warned of exactly if there is something on its
error output.
-/

namespace EnvScout

open Text

theorem Output.trimmedRight_ofStreams (stdout stderr : String) (exitCode : Int) :
    trimmedRight (ofStreams stdout stderr exitCode).stdout =
        (ofStreams stdout stderr exitCode).stdout ∧
      trimmedRight (ofStreams stdout stderr exitCode).stderr =
        (ofStreams stdout stderr exitCode).stderr := by
  have hidem : ∀ s, trimmedRight (trimmedRight s) = trimmedRight s := by
    intro s
    rw [trimmedRight, trimmedRight, String.toList_ofList, trimRight_eq_rdropWhile,
      trimRight_eq_rdropWhile, List.rdropWhile_idempotent]
  exact ⟨hidem stdout, hidem stderr⟩

namespace Launcher

variable {launcher : Launcher} {files : FileSystem} {command : Command} {dir : Option Path}
  {reason : String} {ended : Ended} {output : Output}

theorem run_of_error (h : launcher.start files command dir = .error reason) :
    launcher.run files command dir =
      ⟨none, files, [reportStart command dir, reportFailure command reason]⟩ := by
  rw [run, h]

theorem run_of_ok (h : launcher.start files command dir = .ok ended) :
    launcher.run files command dir = ⟨some (outputOf ended), ended.files,
      reportStart command dir :: warnings command (outputOf ended)⟩ := by
  rw [run, h]

theorem success_outputOf_iff : (outputOf ended).success = true ↔ ended.code = some 0 := by
  show (ended.code.getD (-1) == 0) = true ↔ _
  cases ended.code <;> simp

theorem level_of_mem_warnings {e : Log.Event} (h : e ∈ warnings command output) :
    e.level = .warn := by
  rw [warnings] at h
  split at h
  · cases h
  · obtain rfl := List.mem_singleton.mp h
    rfl

theorem warnings_ne_nil_iff : warnings command output ≠ [] ↔ output.stderr ≠ "" := by
  rw [warnings]
  split <;> simp [*]

/-- A command has no output exactly if it was not started. Then the files are as they were, and the
last event is the error. Otherwise the output and the files are those of the ended process, which
has succeeded just with the exit code zero; nothing is reported as an error, and a warning just if
something was written to the error output. -/
theorem run_settles (launcher : Launcher) (files : FileSystem) (command : Command)
    (dir : Option Path) :
    let execution := launcher.run files command dir
    (execution.output = none ↔ ∃ reason, launcher.start files command dir = .error reason) ∧
    (execution.output = none → execution.files = files ∧
      ∃ e, execution.events.getLast? = some e ∧ e.level = .error) ∧
    (∀ output, execution.output = some output →
      ∃ ended, launcher.start files command dir = .ok ended ∧
        output = outputOf ended ∧ execution.files = ended.files ∧
        (output.success = true ↔ ended.code = some 0) ∧
        trimmedRight output.stdout = output.stdout ∧
        trimmedRight output.stderr = output.stderr ∧
        (∀ e ∈ execution.events, e.level ≠ .error) ∧
        ((∃ e ∈ execution.events, e.level = .warn) ↔ output.stderr ≠ "")) := by
  intro execution
  cases hstart : launcher.start files command dir with
  | error reason =>
      rw [show execution = _ from run_of_error hstart]
      exact ⟨iff_of_true rfl ⟨reason, rfl⟩, fun _ => ⟨rfl, _, rfl, rfl⟩, nofun⟩
  | ok ended =>
      rw [show execution = _ from run_of_ok hstart]
      refine ⟨iff_of_false nofun nofun, nofun, ?_⟩
      rintro _ ⟨⟩
      obtain ⟨hstdout, hstderr⟩ := Output.trimmedRight_ofStreams (Utf8.readLenient ended.stdout)
        (Utf8.readLenient ended.stderr) (ended.code.getD (-1))
      refine ⟨ended, rfl, rfl, rfl, success_outputOf_iff, hstdout, hstderr, ?_, ?_⟩
      · rintro e (_ | ⟨_, he⟩)
        · exact nofun
        · rw [level_of_mem_warnings he]
          exact nofun
      · rw [← @warnings_ne_nil_iff command]
        constructor
        · rintro ⟨e, _ | ⟨_, he⟩, hwarn⟩
          · cases hwarn
          · exact List.ne_nil_of_mem he
        · intro hne
          obtain ⟨e, he⟩ := List.exists_mem_of_ne_nil _ hne
          exact ⟨e, List.mem_cons_of_mem _ he, level_of_mem_warnings he⟩

end Launcher

end EnvScout
