import DownloadSite.Proofs.Files.Growth

/-!
# Steps taken again

What the steps on files find that have succeeded before. A directory that has been created is kept, even if
something has been added since (`does_ensureDirectory_again`), and a file that has been written is written
again whatever is written now: its path leads to the same location (`write_again`), where only the last content
is left (`FileTree.set_set`).
-/

namespace DownloadSite

namespace FileTree

variable {name : String} {node old new : FileTree} {location : Location}

/-! ### The same entry set again -/

theorem setEntry_setEntry (name : String) (old new : FileTree) (entries : List (String × FileTree)) :
    setEntry name new (setEntry name old entries) = setEntry name new entries := by
  induction entries with
  | nil => simp [setEntry]
  | cons entry rest ih =>
    by_cases hname : entry.1 = name
    · simp [setEntry, hname]
    · simp [setEntry, hname, ih]

theorem setEntry_of_lookup {entries : List (String × FileTree)} (h : entries.lookup name = some node) :
    setEntry name node entries = entries := by
  induction entries with
  | nil => cases h
  | cons entry rest ih =>
    obtain ⟨key, value⟩ := entry
    rw [List.lookup_cons] at h
    by_cases hkey : key = name
    · subst hkey
      simp only [beq_self_eq_true] at h
      simp [setEntry, Option.some.inj h]
    · have hne : (name == key) = false := by simpa using Ne.symm hkey
      rw [hne] at h
      simp [setEntry, hkey, ih h]

theorem set_set (tree : FileTree) (location : Location) (old new : FileTree) :
    set new (set old tree location) location = set new tree location := by
  induction location generalizing tree with
  | nil => cases tree <;> rfl
  | cons name rest ih =>
    cases tree with
    | file content => rfl
    | directory entries =>
      cases rest with
      | nil => simp [set, setEntry_setEntry]
      | cons second rest =>
        rw [set_cons old _ _ (by simp), set_cons new _ _ (by simp)]
        cases hnode : entries.lookup name with
        | none => rw [set_cons new _ _ (by simp), hnode]
        | some node =>
          rw [set_cons new _ _ (by simp), lookup_setEntry, if_pos rfl]
          simp only [ih, setEntry_setEntry]

/-- A node put where it is already changes nothing. -/
theorem set_of_get? {tree : FileTree} (h : tree.get? location = some node) : set node tree location = tree := by
  induction location generalizing tree with
  | nil =>
    cases tree <;> exact (Option.some.inj h).symm
  | cons name rest ih =>
    cases tree with
    | file content => cases h
    | directory entries =>
      obtain ⟨child, hchild, hrest⟩ := Option.bind_eq_some_iff.1 h
      cases rest with
      | nil =>
        have hnode : child = node := by cases child <;> exact Option.some.inj hrest
        rw [hnode] at hchild
        rw [set, setEntry_of_lookup hchild]
      | cons second rest =>
        rw [set_cons node _ _ (by simp), hchild]
        simp only [ih hrest, setEntry_of_lookup hchild]

end FileTree

open FileTree

namespace Place

variable {place after later : Place} {path name : String} {parent : Location} {content other : ByteArray}

/-! ### Directories that are there -/

/-- A path leads to a directory if its names do, whether or not it ends in a slash. -/
theorem isDirectory_iff : place.isDirectory path = true ↔
    checkPath path = .ok () ∧ ∃ location, place.root.walk (place.start path) (Path.steps path) = .ok location ∧
      place.root.isDirectoryAt location = true := by
  rw [isDirectory, locate]
  cases checkPath path with
  | error fault => simp [bind, Except.bind]
  | ok _ =>
    cases place.root.walk (place.start path) (Path.steps path) with
    | error fault => simp [bind, Except.bind]
    | ok location =>
      cases hdirectory : place.root.isDirectoryAt location <;> cases Path.endsInSlash path <;>
        simp [bind, Except.bind, hdirectory]

theorem isDirectory_of_keeps (h : place.isDirectory path = true) (hkeeps : Keeps place.root after.root)
    (hcurrent : after.current = place.current) : after.isDirectory path = true := by
  obtain ⟨hchecked, location, hwalk, hdirectory⟩ := isDirectory_iff.1 h
  exact isDirectory_iff.2
    ⟨hchecked, location, walk_start_eq_ok hkeeps hcurrent hwalk, hkeeps.isDirectoryAt hdirectory⟩

/-- What a path's last name is for, once the names before it lead to a directory. -/
theorem locateLast_of_walk {above : List String} (hchecked : checkPath path = .ok ())
    (hsteps : Path.steps path = above ++ [name]) (hwalk : place.root.walk (place.start path) above = .ok parent)
    (hdirectory : place.root.isDirectoryAt parent = true) :
    place.locateLast path =
      if name = "." ∨ name = ".." then .ok (parent, none)
      else if maxNameBytes < name.utf8ByteSize then .error .nameTooLong else .ok (parent, some name) := by
  rw [locateLast, hchecked, hsteps]
  show (place.root.walk (place.start path) (above ++ [name]).dropLast).bind _ = _
  rw [List.dropLast_concat, hwalk, List.getLast?_concat]
  simp [Except.bind, hdirectory]

/-- Where a path leads to a directory, its last name belongs to an entry or is no proper name. -/
theorem makeDirectory_of_isDirectory (h : place.isDirectory path = true) :
    place.makeDirectory path = (.error .alreadyExists, place) := by
  obtain ⟨hchecked, location, hwalk, hdirectory⟩ := isDirectory_iff.1 h
  rcases List.eq_nil_or_concat (Path.steps path) with hsteps | ⟨above, name, hsteps⟩
  · have hlocate : place.locateLast path = .ok (place.start path, none) := by
      rw [locateLast, hchecked, hsteps]
      rfl
    rw [makeDirectory, hlocate]
  · rw [List.concat_eq_append] at hsteps
    rw [hsteps, walk_append] at hwalk
    obtain ⟨parent, habove, hname⟩ := exists_of_bind_eq_ok hwalk
    obtain ⟨hparent, next, hstep, -⟩ := walk_cons_eq_ok_iff.1 hname
    have hlocate := locateLast_of_walk hchecked hsteps habove hparent
    cases hstep with
    | stay => rw [makeDirectory, hlocate, if_pos (.inl rfl)]
    | up => rw [makeDirectory, hlocate, if_pos (.inr rfl)]
    | down name proper present =>
      rw [view, Option.isSome_map] at present
      rw [makeDirectory, hlocate, if_neg (not_or.2 ⟨proper.ne_dot, proper.ne_dots⟩),
        if_neg (Nat.not_lt.2 proper.short)]
      simp only [present, if_true]

theorem does_makeOrKeep_of_isDirectory (h : place.isDirectory path = true) :
    place.Does (FileAccess.makeOrKeep path) (.ok ()) place := by
  have hmake : place.Does (FileAccess.makeDirectory path) (.error .alreadyExists) place :=
    makeDirectory_of_isDirectory h
  have hthere : place.Does (FileAccess.isDirectory path) true place := by
    show (place.isDirectory path, place) = (true, place)
    rw [h]
  exact hmake.bind (hthere.bind (Does.pure place _))

theorem isDirectory_of_does_makeOrKeep (h : place.Does (FileAccess.makeOrKeep path) (.ok ()) after) :
    after.isDirectory path = true := by
  obtain ⟨result, middle, hmake, h⟩ := h.exists_of_bind
  have hresult : place.makeDirectory path = (result, middle) := hmake
  rcases place.makeDirectory_cases path with ⟨fault, hfault⟩ | ⟨parent, name, htarget, habsent, hmade⟩
  · rw [hfault] at hresult
    obtain ⟨rfl, rfl⟩ := Prod.mk.inj hresult
    cases fault with
    | alreadyExists =>
      obtain ⟨isThere, last, hthere, h⟩ := h.exists_of_bind
      obtain ⟨hanswer, hlast⟩ : isThere = place.isDirectory path ∧ last = place :=
        hthere.unique (Does.of_answer place _)
      rw [hanswer, hlast] at h
      cases hdirectory : place.isDirectory path with
      | true =>
        rw [hdirectory] at h
        obtain ⟨-, rfl⟩ := h.eq_of_pure
        exact hdirectory
      | false =>
        rw [hdirectory] at h
        cases h.eq_of_pure.1
    | _ => cases h.eq_of_pure.1
  · rw [hmade] at hresult
    obtain ⟨rfl, rfl⟩ := Prod.mk.inj hresult
    obtain ⟨-, rfl⟩ := h.eq_of_pure
    have hgrows : AddsDirectories place.root (place.put (parent ++ [name]) (.directory [])).root :=
      .of_set htarget.isDirectory habsent
    have hview : (place.put (parent ++ [name]) (.directory [])).root.view (parent ++ [name]) = some .directory :=
      view_set_below htarget.isDirectory name (.directory []) []
    refine isDirectory_iff.2 ⟨htarget.checked, parent ++ [name], ?_, isDirectoryAt_iff.2 hview⟩
    exact htarget.walk_eq_ok hgrows.keeps rfl (Option.isSome_of_eq_some hview)

theorem isDirectory_of_does_ensureFirst {above : List String}
    (h : place.Does (FileAccess.ensureFirst (path :: above)) (.ok ()) after) : after.isDirectory path = true := by
  rw [FileAccess.ensureFirst] at h
  obtain ⟨result, middle, hmake, h⟩ := h.exists_of_bind
  split at h
  · obtain ⟨result, middle, -, h⟩ := h.exists_of_bind
    cases result with
    | error fault => cases h.eq_of_pure.1
    | ok _ => exact isDirectory_of_does_makeOrKeep h
  · obtain ⟨hresult, rfl⟩ := h.eq_of_pure
    rw [← hresult] at hmake
    exact isDirectory_of_does_makeOrKeep hmake

/-- Behind a change that takes nothing away, a directory that was created is found and kept. -/
theorem does_ensureDirectory_again (h : place.Does (FileAccess.ensureDirectory path) (.ok ()) after)
    (hkeeps : Keeps after.root later.root) (hcurrent : later.current = after.current) :
    later.Does (FileAccess.ensureDirectory path) (.ok ()) later := by
  unfold FileAccess.ensureDirectory at h ⊢
  split
  · exact Does.pure later _
  · next hsteps =>
    rw [if_neg hsteps] at h
    have hthere := isDirectory_of_keeps (isDirectory_of_does_ensureFirst h) hkeeps hcurrent
    exact (does_makeOrKeep_of_isDirectory hthere).bind (Does.pure later _)

/-! ### Files written again -/

theorem Target.locateLast_eq (h : place.Target path parent name) : place.locateLast path = .ok (parent, some name) := by
  obtain ⟨above, hsteps, hwalk⟩ := h.leads
  rw [locateLast_of_walk h.checked hsteps hwalk h.isDirectory,
    if_neg (not_or.2 ⟨h.proper.ne_dot, h.proper.ne_dots⟩), if_neg (Nat.not_lt.2 h.proper.short)]

theorem Target.of_keeps (h : place.Target path parent name) (hkeeps : Keeps place.root after.root)
    (hcurrent : after.current = place.current) : after.Target path parent name where
  checked := h.checked
  leads := by
    obtain ⟨above, hsteps, hwalk⟩ := h.leads
    exact ⟨above, hsteps, walk_start_eq_ok hkeeps hcurrent hwalk⟩
  isDirectory := hkeeps.isDirectoryAt h.isDirectory
  proper := h.proper

theorem Target.write_eq (h : place.Target path parent name) (hslash : Path.endsInSlash path = false)
    (hname : place.root.isDirectoryAt (parent ++ [name]) = false) (content : ByteArray) :
    place.write path content = (.ok (), place.put (parent ++ [name]) (.file content)) := by
  rw [write, h.locateLast_eq]
  simp [hslash, hname]

/-- A path that a file was written to takes any content, and takes it again with nothing left of the first. -/
theorem exists_put_of_write (h : place.write path content = (.ok (), after)) :
    ∃ location, ∀ other, place.write path other = (.ok (), place.put location (.file other)) ∧
      after.write path other = (.ok (), place.put location (.file other)) := by
  obtain ⟨parent, name, htarget, hslash, hname, rfl⟩ := target_of_write h
  have hkeeps := keeps_set htarget.isDirectory (.file content) hname
  have hview : (place.put (parent ++ [name]) (.file content)).root.view (parent ++ [name]) = some (.file content) :=
    view_set_below htarget.isDirectory name (.file content) []
  have hagain : (place.put (parent ++ [name]) (.file content)).Target path parent name :=
    htarget.of_keeps hkeeps rfl
  refine ⟨parent ++ [name], fun other => ⟨htarget.write_eq hslash hname other, ?_⟩⟩
  rw [hagain.write_eq hslash (isDirectoryAt_eq_false (by rw [hview]; exact nofun))]
  simp only [put, set_set]

theorem Stores.write_eq_self (h : place.Stores path content after parent name) (hkeeps : Keeps place.root later.root)
    (hcurrent : later.current = place.current) (hview : later.root.view (parent ++ [name]) = some (.file content)) :
    later.write path content = (.ok (), later) := by
  have hname : later.root.isDirectoryAt (parent ++ [name]) = false :=
    isDirectoryAt_eq_false (by rw [hview]; exact nofun)
  rw [(h.target.of_keeps hkeeps hcurrent).write_eq h.slash_eq hname, put, set_of_get? (get?_eq_some_file hview)]

end Place

end DownloadSite
