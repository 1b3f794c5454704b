import EnvScout.Proofs.Files.Landing
import EnvScout.Proofs.Path.Steps

/-!
Walks to directories. Pieces that lead nowhere can be walked only in a directory, so a walk to one
goes by the steps alone, whatever is written between them.
-/

namespace EnvScout.FileSystem

open EnvScout.Path (stepsOf)

variable {files : FileSystem} {jump : List String → List String → Except FileError Landing}
  {here dir pieces : List String}

/-- A walk to a directory starts in one. -/
theorem directory_of_walk (hdir : files.shape? dir = some .directory)
    (h : files.walk jump here pieces = .ok (.found dir)) : files.shape? here = some .directory := by
  cases pieces with
  | nil =>
      cases h
      exact hdir
  | cons piece rest =>
      rw [walk_cons] at h
      split at h
      · assumption
      · cases h
      · cases h

/-- A walk to a directory goes by the steps alone if, behind a link, it goes by them alone. -/
theorem walk_stepsOf_iff (hdir : files.shape? dir = some .directory)
    (hjump : ∀ start front back, stepsOf front = stepsOf back →
      (jump start front = .ok (.found dir) ↔ jump start back = .ok (.found dir)))
    (here pieces : List String) :
    files.walk jump here pieces = .ok (.found dir) ↔
      files.walk jump here (stepsOf pieces) = .ok (.found dir) := by
  induction pieces generalizing here with
  | nil => exact Iff.rfl
  | cons piece rest ih =>
      by_cases hvoid : Path.isVoid piece = true
      · rw [Path.stepsOf_cons_of_void hvoid, ← ih here, walk_cons]
        constructor
        · intro h
          split at h
          · rwa [if_pos hvoid] at h
          · cases h
          · cases h
        · intro h
          rw [directory_of_walk hdir h]
          exact (if_pos hvoid).trans h
      · rw [Path.stepsOf_cons_of_step (Bool.eq_false_iff.mpr hvoid), walk_cons, walk_cons]
        split
        · rw [if_neg hvoid, if_neg hvoid]
          split
          · exact ih _
          split
          · exact Iff.rfl
          split
          · apply hjump
            rw [Path.stepsOf_append, Path.stepsOf_append, Path.stepsOf_stepsOf]
          · exact ih _
          · refine iff_of_false ?_ ?_ <;> split <;> nofun
        · exact Iff.rfl
        · exact Iff.rfl

theorem follow_stepsOf_iff (hdir : files.shape? dir = some .directory) (links : Nat)
    (here pieces : List String) :
    files.follow links here pieces = .ok (.found dir) ↔
      files.follow links here (stepsOf pieces) = .ok (.found dir) := by
  induction links generalizing here pieces with
  | zero => exact walk_stepsOf_iff hdir (fun _ _ _ _ => Iff.rfl) here pieces
  | succ links ih =>
      refine walk_stepsOf_iff hdir (fun start front back hsame => ?_) here pieces
      rw [ih start front, hsame, ← ih start back]

end EnvScout.FileSystem
