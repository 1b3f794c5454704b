import EnvScout.Log.Place
import EnvScout.Proofs.Files.Made

/-!
Where the logs end up. The log directory is there where the one under the state directory could be
made; the one that is named when it could not is not made, so it is there only if it has been there
before. Without the directory nothing is logged.
-/

namespace EnvScout.Log.Surroundings

/-- A log directory under the state directory is known, and nothing stands in the way of making
it. -/
def Makeable (s : Surroundings) (files : FileSystem) : Prop :=
  ∃ dir, s.stateLogs? = some dir ∧ (files.makeDirectories s.workingDirectory dir).2 = none

variable {s : Surroundings} {files : FileSystem} {dir : Path}

theorem text_stateLogs?_ne (h : s.stateLogs? = some dir) : dir.text ≠ "" := by
  obtain ⟨state, -, rfl⟩ := Option.map_eq_some_iff.mp h
  exact Path.text_child_ne _ (by decide)

theorem text_fallback_ne (s : Surroundings) : s.fallback.text ≠ "" :=
  Path.text_child_ne _ (by decide)

/-- The directory is the one under the state directory if that has been made, and the files are what
making it has left. -/
theorem logDirectory_cases (s : Surroundings) (files : FileSystem) :
    (s.stateLogs? = none ∧ s.logDirectory files = (s.fallback, files)) ∨
      ∃ state, s.stateLogs? = some state ∧
        (s.logDirectory files).2 = (files.makeDirectories s.workingDirectory state).1 ∧
        (s.logDirectory files).1 =
          if (files.makeDirectories s.workingDirectory state).2 = none then state
          else s.fallback := by
  rw [logDirectory]
  split
  · rename_i hnone
    exact .inl ⟨hnone, rfl⟩
  · rename_i state hstate
    refine .inr ⟨state, hstate, ?_⟩
    split
    · rename_i made heq
      rw [heq]
      exact ⟨rfl, rfl⟩
    · rename_i left e heq
      rw [heq]
      exact ⟨rfl, rfl⟩

theorem grows_logDirectory (s : Surroundings) (files : FileSystem) :
    files.Grows (s.logDirectory files).2 := by
  rcases logDirectory_cases s files with ⟨-, heq⟩ | ⟨state, -, hfiles, -⟩
  · rw [heq]
    exact .refl files
  · rw [hfiles]
    exact files.grows_makeDirectories s.workingDirectory state

/-- Once the log directory has been asked for, the one under the state directory is there exactly if
it could be made, and it is the one exactly then. -/
theorem makeable_iff (s : Surroundings) (files : FileSystem) :
    (s.Makeable files ↔ ∃ state, s.stateLogs? = some state ∧
      (s.logDirectory files).2.isDirectory s.workingDirectory state = true) ∧
    (s.Makeable files → s.stateLogs? = some (s.logDirectory files).1) ∧
    (¬s.Makeable files → (s.logDirectory files).1 = s.fallback) := by
  rcases logDirectory_cases s files with ⟨hnone, heq⟩ | ⟨state, hstate, hfiles, hdir⟩
  · have hnot : ¬s.Makeable files := by
      rintro ⟨state, hstate, -⟩
      rw [hnone] at hstate
      cases hstate
    refine ⟨iff_of_false hnot ?_, fun h => absurd h hnot, fun _ => by rw [heq]⟩
    rintro ⟨state, hstate, -⟩
    rw [hnone] at hstate
    cases hstate
  · have hmakeable : s.Makeable files ↔
        (files.makeDirectories s.workingDirectory state).2 = none := by
      rw [Makeable, hstate]
      simp
    have hmade := files.isDirectory_makeDirectories_iff s.workingDirectory
      (text_stateLogs?_ne hstate)
    rw [hmakeable, hfiles, hdir, hstate]
    refine ⟨by simp [hmade], fun h => by rw [if_pos h], fun h => by rw [if_neg h]⟩

theorem text_logDirectory_ne (s : Surroundings) (files : FileSystem) :
    (s.logDirectory files).1.text ≠ "" := by
  by_cases h : s.Makeable files
  · exact text_stateLogs?_ne ((makeable_iff s files).2.1 h)
  · rw [(makeable_iff s files).2.2 h]
    exact text_fallback_ne s

/-- The log directory is there if it could be made, and otherwise only if it is there anyway. -/
theorem isDirectory_logDirectory_iff (s : Surroundings) (files : FileSystem) :
    (s.logDirectory files).2.isDirectory s.workingDirectory (s.logDirectory files).1 = true ↔
      s.Makeable files ∨
        (s.logDirectory files).2.isDirectory s.workingDirectory s.fallback = true := by
  obtain ⟨hthere, hstate, hfallback⟩ := makeable_iff s files
  by_cases h : s.Makeable files
  · obtain ⟨state, hknown, hdirectory⟩ := hthere.mp h
    obtain rfl : (s.logDirectory files).1 = state :=
      Option.some.inj ((hstate h).symm.trans hknown)
    exact iff_of_true hdirectory (.inl h)
  · rw [or_iff_right h, hfallback h]

/-- Both logs can be opened only in a log directory that is there. -/
theorem openLogs_of_no_directory (hnumber : '/' ∉ s.processNumber.toList)
    (h : (s.logDirectory files).2.isDirectory s.workingDirectory (s.logDirectory files).1 = false)
    (main : Path) : s.openLogs files main = (none, (s.logDirectory files).2) := by
  have hname : '/' ∉ ("warnings-" ++ s.processNumber ++ ".log").toList := by
    rw [String.toList_append, String.toList_append, List.mem_append, List.mem_append]
    rintro ((hmem | hmem) | hmem)
    · exact absurd hmem (by decide)
    · exact hnumber hmem
    · exact absurd hmem (by decide)
  have hrefused : ∃ e, (s.logDirectory files).2.write s.workingDirectory
      (s.warningsLogIn (s.logDirectory files).1) .empty false = .error e := by
    cases hwritten : (s.logDirectory files).2.write s.workingDirectory
        (s.warningsLogIn (s.logDirectory files).1) .empty false with
    | error e => exact ⟨e, rfl⟩
    | ok saved =>
        have hdirectory :=
          FileSystem.isDirectory_of_write_child (text_logDirectory_ne s files) hname hwritten
        rw [h] at hdirectory
        cases hdirectory
  obtain ⟨e, hrefused⟩ := hrefused
  unfold openLogs
  dsimp only
  rw [hrefused]

/-- Once the log directory has been asked for, it is there exactly if the one under the state
directory is known and could be made, or the one that is named otherwise is there. The one under
the state directory is there exactly if it could be made, and nothing that was a directory is lost.
In the log directory, if it is there, a file can be written by any name that is free or that of a
file exactly if the directory, or the file, may be changed; if it is not there, nothing is logged
wherever the main log is to be. -/
theorem logDirectory_there_iff (s : Surroundings) (files : FileSystem) :
    let cwd := s.workingDirectory
    let dir := (s.logDirectory files).1
    let left := (s.logDirectory files).2
    (left.isDirectory cwd dir = true ↔
      s.Makeable files ∨ left.isDirectory cwd s.fallback = true) ∧
    (s.Makeable files ↔ ∃ state, s.stateLogs? = some state ∧
      left.isDirectory cwd state = true) ∧
    (s.Makeable files → s.stateLogs? = some dir) ∧
    (¬s.Makeable files → dir = s.fallback) ∧
    (∀ p, files.isDirectory cwd p = true → left.isDirectory cwd p = true) ∧
    (left.isDirectory cwd dir = true → ∃ place, left.locate cwd dir = .ok place ∧
      ∀ name, Path.IsName name → (dir.child name).text.length ≤ 4095 →
        left.shape? (place ++ [name]) = none ∨ left.shape? (place ++ [name]) = some .file →
        ∀ content executable,
          (∃ saved, left.write cwd (dir.child name) content executable = .ok saved) ↔
            left.refuses .write (left.changedFor place name) = false) ∧
    (left.isDirectory cwd dir = false → '/' ∉ s.processNumber.toList →
      ∀ main, s.openLogs files main = (none, left)) := by
  intro cwd dir left
  obtain ⟨hthere, hstate, hfallback⟩ := makeable_iff s files
  refine ⟨isDirectory_logDirectory_iff s files, hthere, hstate, hfallback,
    fun p => (grows_logDirectory s files).isDirectory, ?_,
    fun h hnumber => openLogs_of_no_directory hnumber h⟩
  intro h
  obtain ⟨place, hplace, hdirectory⟩ := FileSystem.isDirectory_iff.mp h
  exact ⟨place, hplace, fun name hname hshort hentry =>
    FileSystem.exists_write_child_iff hplace hdirectory hname hshort hentry⟩

/-- A temporary directory, and a file beside it. -/
def fileBesideTemporary : FileSystem :=
  ⟨.directory [("blocked", .file .empty false), ("tmp", .directory [])], []⟩

/-- Surroundings in which the state directory has been set. -/
def stateAt (text : String) : Surroundings :=
  ⟨some ⟨text⟩, some ⟨"/home"⟩, ⟨"/tmp"⟩, [], "17"⟩

/-- Where the state directory is missing it is made with the log directory. -/
theorem logDirectory_made :
    (stateAt "/state").Makeable fileBesideTemporary ∧
      ((stateAt "/state").logDirectory fileBesideTemporary).2.isDirectory []
        ((stateAt "/state").logDirectory fileBesideTemporary).1 = true := by
  have hmakeable : (stateAt "/state").Makeable fileBesideTemporary :=
    ⟨⟨"/state/pyright-env/logs"⟩, by decide +kernel, by decide +kernel⟩
  exact ⟨hmakeable, (logDirectory_there_iff _ _).1.mpr (.inl hmakeable)⟩

/-- Where a file stands in the place of the state directory, a directory is named that nothing has
made. -/
theorem logDirectory_only_named :
    ¬∀ (s : Surroundings) (files : FileSystem),
      files.isDirectory s.workingDirectory s.temporaryDirectory = true →
      (s.logDirectory files).2.isDirectory s.workingDirectory (s.logDirectory files).1 = true := by
  intro hall
  have hnamed := hall (stateAt "/blocked") fileBesideTemporary (by decide +kernel)
  exact absurd hnamed (by decide +kernel)

end EnvScout.Log.Surroundings
