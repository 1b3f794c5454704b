import EnvScout.Proofs.Files.Descent
import EnvScout.Proofs.Finder.Finding
import EnvScout.Proofs.Venv.Interpreter

/-!
The scan of subdirectories. A trial that is in vain runs no command, so on any host every
candidate is judged by the same files; where the scan finds nothing, no entry of the directory is an
environment of either kind, unless the directory may not be listed.
-/

namespace EnvScout

open Search Venv

/-- Under this name a directory has a directory, or a link to one, that is a valid environment. -/
structure InSight (site : Site) (files : FileSystem) (dir : Path) (kind : VenvKind)
    (name : String) : Prop where
  directory : files.isDirectory site.workingDirectory (dir.child name) = true
  valid : ∃ place, files.canonical site.workingDirectory (dir.child name) = .ok place ∧
    isVenv files site.workingDirectory kind place = true

variable {site : Site} {files : FileSystem} {dir : Path} {kind : VenvKind} {name : String}

/-- What is in sight is listed, unless listing the directory is refused. -/
theorem InSight.lists_or_refused (h : InSight site files dir kind name) (hdir : dir.text ≠ "")
    (hname : Path.IsName name) : files.Lists site.workingDirectory dir name ∨
      files.listing site.workingDirectory dir = .error .permissionDenied := by
  obtain ⟨found, hfound, -⟩ := FileSystem.isDirectory_iff.mp h.directory
  exact FileSystem.lists_or_refused_of_locate_child hdir hname.notVoid hname.notParent
    hname.noSeparator hfound

/-- Wherever the directory has an environment in plain sight, listing it is refused. -/
def SightRefused (site : Site) (files : FileSystem) (dir : Path) : Prop :=
  ∀ kind name, Path.IsName name → InSight site files dir kind name →
    files.listing site.workingDirectory dir = .error .permissionDenied

namespace Finder

theorem firstVenv_in_vain {kinds : List VenvKind} {candidates : List Path}
    (h : (firstVenv site kinds candidates).value files = none) :
    ∀ dir ∈ candidates, files.isDirectory site.workingDirectory dir = true →
      ∀ kind ∈ kinds, (ofDirectory site kind dir).value files = none := by
  rw [value_firstVenv, List.findSome?_eq_none_iff] at h
  intro dir hdir hdirectory
  have hnone := h dir hdir
  rw [value_tryCandidate, if_pos hdirectory, List.findSome?_eq_none_iff] at hnone
  exact hnone

/-- Where the scan finds nothing, what is in sight is in a directory that may not be listed. -/
theorem sightRefused_of_find (hdir : dir.isAbsolute = true)
    (h : (find site .anySubdirectory dir).value files = none) : SightRefused site files dir := by
  intro kind name hname hsight
  refine (hsight.lists_or_refused (Path.text_ne_of_isAbsolute hdir) hname).resolve_left ?_
  rintro ⟨entries, hlisting, hlisted⟩
  obtain ⟨hdirectory, place, hplace, hvalid⟩ := hsight
  rw [value_find_anySubdirectory, value_listSubdirectories, hlisting] at h
  have hcandidate : dir.child name ∈ subdirectories files site.workingDirectory dir entries := by
    rw [subdirectories, List.mem_filter]
    exact ⟨List.mem_map_of_mem (List.mem_mergeSort.mpr hlisted), hdirectory⟩
  have hkind : kind ∈ VenvKind.all := by
    cases kind <;> decide
  have hnone := firstVenv_in_vain h _ hcandidate hdirectory kind hkind
  have htilde : canonicalTilde files site (dir.child name) = .ok place := by
    rw [canonicalTilde, expandTilde_of_isAbsolute (Path.isAbsolute_child hdir name)]
    exact hplace
  rw [ofDirectory_eq_none_iff.mp hnone place htilde] at hvalid
  cases hvalid

end Finder

end EnvScout
