import Mathlib.Data.List.Basic
import DownloadSite.Proofs.Files.View
import DownloadSite.Proofs.Except

/-!
# Written files

A file is written as the last name of its path, in the directory that the names before it lead to. The names
lead there afterwards too, so whoever reads the same path finds what was written (`read_of_write`).
-/

namespace DownloadSite.Place

open FileTree

variable {place after : Place} {path name : String} {parent : Location} {content : ByteArray}

/-- The names of a path but the last lead to a directory, and the last may name an entry of it. -/
structure Target (place : Place) (path : String) (parent : Location) (name : String) : Prop where
  checked : checkPath path = .ok ()
  leads : ∃ above, Path.steps path = above ++ [name] ∧ place.root.walk (place.start path) above = .ok parent
  isDirectory : place.root.isDirectoryAt parent = true
  proper : IsProper name

theorem target_of_locateLast (h : place.locateLast path = .ok (parent, some name)) :
    place.Target path parent name := by
  obtain ⟨⟨⟩, hchecked, hrest⟩ := exists_of_bind_eq_ok h
  obtain ⟨middle, hwalk, hlast⟩ := exists_of_bind_eq_ok hrest
  split at hlast
  · cases hlast
  · next last hname =>
    split_ifs at hlast with hdirectory hdots hlong
    · cases hlast
    · cases hlast
      rw [not_or] at hdots
      refine ⟨hchecked, ⟨_, (List.dropLast_append_getLast? _ hname).symm, hwalk⟩, ?_, ?_⟩
      · simpa using hdirectory
      · exact ⟨hdots.1, hdots.2, Nat.not_lt.1 hlong⟩

theorem target_of_write (h : place.write path content = (.ok (), after)) :
    ∃ parent name, place.Target path parent name ∧ Path.endsInSlash path = false ∧
      place.root.isDirectoryAt (parent ++ [name]) = false ∧
      after = place.put (parent ++ [name]) (.file content) := by
  unfold write at h
  split at h
  · cases h
  · cases h
  · next parent name hlocate =>
    split at h
    · cases h
    · next hdirectory =>
      obtain ⟨-, rfl⟩ := Prod.mk.inj h
      rw [Bool.or_eq_true, not_or, Bool.not_eq_true, Bool.not_eq_true] at hdirectory
      exact ⟨parent, name, target_of_locateLast hlocate, hdirectory.1, hdirectory.2, rfl⟩

/-- Behind a change that takes nothing away, the names of a path lead where they led before. -/
theorem walk_start_eq_ok {location : Location} {names : List String} (hkeeps : Keeps place.root after.root)
    (hcurrent : after.current = place.current)
    (h : place.root.walk (place.start path) names = .ok location) :
    after.root.walk (after.start path) names = .ok location := by
  have hstart : after.start path = place.start path := by rw [start, start, hcurrent]
  rw [hstart]
  exact hkeeps.walk_eq_ok h

/-- Behind such a change all the names of a path lead to the entry that the last of them has. -/
theorem Target.walk_eq_ok (h : place.Target path parent name) (hkeeps : Keeps place.root after.root)
    (hcurrent : after.current = place.current) (hpresent : (after.root.view (parent ++ [name])).isSome) :
    after.root.walk (after.start path) (Path.steps path) = .ok (parent ++ [name]) := by
  obtain ⟨above, hsteps, hwalk⟩ := h.leads
  have hlast : after.root.walk parent [name] = .ok (parent ++ [name]) :=
    walk_cons_eq_ok_iff.2 ⟨hkeeps.isDirectoryAt h.isDirectory, _, .down name h.proper hpresent, rfl⟩
  rw [hsteps, walk_append, walk_start_eq_ok hkeeps hcurrent hwalk]
  exact hlast

theorem Target.locate_eq_ok (h : place.Target path parent name) (hslash : Path.endsInSlash path = false)
    (hkeeps : Keeps place.root after.root) (hcurrent : after.current = place.current)
    (hpresent : (after.root.view (parent ++ [name])).isSome) : after.locate path = .ok (parent ++ [name]) := by
  rw [locate, h.checked, h.walk_eq_ok hkeeps hcurrent hpresent, hslash]
  rfl

theorem read_of_write (h : place.write path content = (.ok (), after)) : after.read path = .ok content := by
  obtain ⟨parent, name, htarget, hslash, hname, rfl⟩ := target_of_write h
  have hkeeps := keeps_set htarget.isDirectory (.file content) hname
  have hview := view_set_below htarget.isDirectory name (.file content) []
  have hlocate : (place.put (parent ++ [name]) (.file content)).locate path = .ok (parent ++ [name]) :=
    htarget.locate_eq_ok hslash hkeeps rfl (by rw [put, hview]; rfl)
  have hget : (place.put (parent ++ [name]) (.file content)).root.get? (parent ++ [name]) =
      some (.file content) := get?_eq_some_file hview
  rw [read, hlocate]
  simp only [hget]

end DownloadSite.Place
