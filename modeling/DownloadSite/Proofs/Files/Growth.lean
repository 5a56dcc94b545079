import DownloadSite.Proofs.Files.Effect
import DownloadSite.Proofs.Files.Written

/-!
# Trees that grow

What steps on files leave as it was. Creating directories, with the missing ones above them or without, adds
directories where there was nothing and does nothing else, whether it succeeds or not
(`laysDirectories_ensureDirectory`). Writing a file changes its own location and no other
(`Place.Stores`), or changes nothing if it fails (`write_cases`).
-/

namespace DownloadSite

open FileTree

namespace FileTree

variable {tree middle after new : FileTree} {parent : Location} {name : String}

theorem isDirectoryAt_eq_false (h : tree.view parent ≠ some .directory) : tree.isDirectoryAt parent = false := by
  rw [← Bool.not_eq_true, isDirectoryAt_iff]
  exact h

theorem view_ne_of_isDirectoryAt (h : tree.isDirectoryAt parent = false) : tree.view parent ≠ some .directory := by
  rw [ne_eq, ← isDirectoryAt_iff, h]
  exact Bool.false_ne_true

/-- A node with nothing below it, put where there is no directory, is seen at its own location only. -/
theorem view_set_leaf (h : tree.isDirectoryAt parent = true)
    (hname : tree.isDirectoryAt (parent ++ [name]) = false)
    (hleaf : ∀ first rest, new.view (first :: rest) = none) (location : Location) :
    (set new tree (parent ++ [name])).view location =
      if location = parent ++ [name] then some new.entry else tree.view location := by
  by_cases hprefix : parent ++ [name] <+: location
  · obtain ⟨below, rfl⟩ := hprefix
    rw [List.append_assoc, List.singleton_append, view_set_below h]
    cases below with
    | nil =>
      rw [if_pos rfl]
      cases new <;> rfl
    | cons first rest =>
      have hne : parent ++ name :: first :: rest ≠ parent ++ [name] := by simp
      have hbelow := view_below_eq_none hname first rest
      rw [List.append_assoc, List.singleton_append] at hbelow
      rw [if_neg hne, hleaf, hbelow]
  · have hne : location ≠ parent ++ [name] := by
      rintro rfl
      exact hprefix (List.prefix_refl _)
    rw [view_set_apart h new hprefix, if_neg hne]

/-- The second tree has directories where the first one has nothing, and is the same everywhere else. -/
def AddsDirectories (tree after : FileTree) : Prop :=
  ∀ location, after.view location = tree.view location ∨
    (tree.view location = none ∧ after.view location = some .directory)

namespace AddsDirectories

protected theorem refl (tree : FileTree) : AddsDirectories tree tree := fun _ => .inl rfl

protected theorem trans (h : AddsDirectories tree middle) (h' : AddsDirectories middle after) :
    AddsDirectories tree after := by
  intro location
  rcases h location with hsame | ⟨hnone, hnew⟩
  · rcases h' location with hsame' | ⟨hnone', hnew'⟩
    · exact .inl (hsame'.trans hsame)
    · exact .inr ⟨hsame.symm.trans hnone', hnew'⟩
  · rcases h' location with hsame' | ⟨hnone', hnew'⟩
    · exact .inr ⟨hnone, hsame'.trans hnew⟩
    · exact .inr ⟨hnone, hnew'⟩

theorem view_eq_some_directory (h : AddsDirectories tree after) {location : Location}
    (hdirectory : tree.view location = some .directory) : after.view location = some .directory := by
  rcases h location with hsame | ⟨-, hnew⟩
  · exact hsame.trans hdirectory
  · exact hnew

theorem keeps (h : AddsDirectories tree after) : Keeps tree after where
  present location hsome := by
    rcases h location with hsame | ⟨-, hnew⟩
    · rwa [hsame]
    · rw [hnew]
      rfl
  directory _ := h.view_eq_some_directory

theorem of_set (h : tree.isDirectoryAt parent = true) (habsent : tree.view (parent ++ [name]) = none) :
    AddsDirectories tree (set (.directory []) tree (parent ++ [name])) := by
  intro location
  have hname : tree.isDirectoryAt (parent ++ [name]) = false :=
    isDirectoryAt_eq_false (by rw [habsent]; exact nofun)
  rw [view_set_leaf h hname fun _ _ => rfl]
  by_cases hlocation : location = parent ++ [name]
  · rw [if_pos hlocation, hlocation]
    exact .inr ⟨habsent, rfl⟩
  · rw [if_neg hlocation]
    exact .inl rfl

end AddsDirectories

theorem Keeps.trans (h : Keeps tree middle) (h' : Keeps middle after) : Keeps tree after where
  present location hsome := h'.present location (h.present location hsome)
  directory location hdirectory := h'.directory location (h.directory location hdirectory)

end FileTree

/-! ### One step -/

namespace Place

variable {place after : Place} {path name : String} {parent : Location} {content : ByteArray}

theorem makeDirectory_cases (place : Place) (path : String) :
    (∃ fault, place.makeDirectory path = (.error fault, place)) ∨
      ∃ parent name, place.Target path parent name ∧ place.root.view (parent ++ [name]) = none ∧
        place.makeDirectory path = (.ok (), place.put (parent ++ [name]) (.directory [])) := by
  rw [makeDirectory]
  split
  · exact .inl ⟨_, rfl⟩
  · exact .inl ⟨_, rfl⟩
  · next parent name hlocate =>
    split
    · exact .inl ⟨_, rfl⟩
    · next habsent =>
      refine .inr ⟨parent, name, target_of_locateLast hlocate, ?_, rfl⟩
      rw [view, Option.map_eq_none_iff]
      simpa using habsent

theorem write_cases (place : Place) (path : String) (content : ByteArray) :
    (∃ fault, place.write path content = (.error fault, place)) ∨
      ∃ after, place.write path content = (.ok (), after) := by
  rw [write]
  split
  · exact .inl ⟨_, rfl⟩
  · exact .inl ⟨_, rfl⟩
  · split
    · exact .inl ⟨_, rfl⟩
    · exact .inr ⟨_, rfl⟩

/-- The file that a path leads to has the content in the second place, and all other locations hold what they
held in the first one. -/
structure Stores (place : Place) (path : String) (content : ByteArray) (after : Place) (parent : Location)
    (name : String) : Prop where
  target : place.Target path parent name
  slash_eq : Path.endsInSlash path = false
  current_eq : after.current = place.current
  view_ne : place.root.view (parent ++ [name]) ≠ some .directory
  view_eq : after.root.view (parent ++ [name]) = some (.file content)
  view_other : ∀ location, location ≠ parent ++ [name] → after.root.view location = place.root.view location

theorem exists_stores_of_write (h : place.write path content = (.ok (), after)) :
    ∃ parent name, place.Stores path content after parent name := by
  obtain ⟨parent, name, htarget, hslash, hname, rfl⟩ := target_of_write h
  have hleaf : ∀ first rest, (FileTree.file content).view (first :: rest) = none := fun _ _ => rfl
  have hview := view_set_leaf htarget.isDirectory hname hleaf
  refine ⟨parent, name, htarget, hslash, rfl, view_ne_of_isDirectoryAt hname, ?_, ?_⟩
  · exact (hview _).trans (if_pos rfl)
  · intro location hne
    exact (hview location).trans (if_neg hne)

theorem Stores.keeps (h : place.Stores path content after parent name) : Keeps place.root after.root where
  present location hsome := by
    by_cases hlocation : location = parent ++ [name]
    · rw [hlocation, h.view_eq]
      rfl
    · rwa [h.view_other location hlocation]
  directory location hdirectory := by
    have hlocation : location ≠ parent ++ [name] := by
      rintro rfl
      exact h.view_ne hdirectory
    rwa [h.view_other location hlocation]

theorem Stores.directory_iff (h : place.Stores path content after parent name) (location : Location) :
    after.root.view location = some .directory ↔ place.root.view location = some .directory := by
  by_cases hlocation : location = parent ++ [name]
  · rw [hlocation, h.view_eq]
    exact ⟨nofun, fun hdirectory => absurd hdirectory h.view_ne⟩
  · rw [h.view_other location hlocation]

theorem Stores.locate_eq_ok (h : place.Stores path content after parent name) :
    after.locate path = .ok (parent ++ [name]) :=
  h.target.locate_eq_ok h.slash_eq h.keeps h.current_eq (by rw [h.view_eq]; rfl)

/-! ### Programs that lay directories -/

/-- The second place has more directories and is the same everywhere else. -/
structure Grows (place after : Place) : Prop where
  current_eq : after.current = place.current
  root : AddsDirectories place.root after.root

protected theorem Grows.refl (place : Place) : Grows place place := ⟨rfl, .refl place.root⟩

protected theorem Grows.trans {middle : Place} (h : Grows place middle) (h' : Grows middle after) :
    Grows place after := ⟨h'.current_eq.trans h.current_eq, h.root.trans h'.root⟩

end Place

variable {α β : Type}

/-- The program adds directories to every place and changes nothing else. -/
def LaysDirectories (program : StateM Place α) : Prop := ∀ place : Place, place.Grows (place.after program)

theorem OnlyLooks.laysDirectories {program : StateM Place α} (h : OnlyLooks program) :
    LaysDirectories program := by
  intro place
  rw [h place]
  exact .refl place

theorem LaysDirectories.bind {program : StateM Place α} {next : α → StateM Place β}
    (h : LaysDirectories program) (hnext : ∀ a, LaysDirectories (next a)) :
    LaysDirectories (program >>= next) := by
  intro place
  rw [Place.after_bind]
  exact (h place).trans (hnext _ _)

theorem laysDirectories_pure (a : α) : LaysDirectories (pure a) := (onlyLooks_pure a).laysDirectories

theorem onlyLooks_isDirectory (path : String) : OnlyLooks (FileAccess.isDirectory path) := fun _ => rfl

theorem laysDirectories_makeDirectory (path : String) : LaysDirectories (FileAccess.makeDirectory path) := by
  intro place
  show place.Grows (place.makeDirectory path).2
  rcases place.makeDirectory_cases path with ⟨fault, hresult⟩ | ⟨parent, name, htarget, habsent, hresult⟩
  · rw [hresult]
    exact .refl place
  · rw [hresult]
    exact ⟨rfl, .of_set htarget.isDirectory habsent⟩

theorem laysDirectories_makeOrKeep (path : String) : LaysDirectories (FileAccess.makeOrKeep path) := by
  apply (laysDirectories_makeDirectory path).bind
  intro result
  split
  · apply (onlyLooks_isDirectory path).laysDirectories.bind
    intro isThere
    cases isThere
    · exact laysDirectories_pure _
    · exact laysDirectories_pure _
  · exact laysDirectories_pure _

theorem laysDirectories_ensureFirst (paths : List String) :
    LaysDirectories (FileAccess.ensureFirst paths) := by
  induction paths with
  | nil => exact laysDirectories_pure _
  | cons path above ih =>
    apply (laysDirectories_makeOrKeep path).bind
    intro result
    split
    · apply ih.bind
      intro result
      split
      · exact laysDirectories_pure _
      · exact laysDirectories_makeOrKeep path
    · exact laysDirectories_pure _

theorem laysDirectories_ensureDirectory (path : String) :
    LaysDirectories (FileAccess.ensureDirectory path) := by
  unfold FileAccess.ensureDirectory
  split
  · exact laysDirectories_pure _
  · exact laysDirectories_ensureFirst _

theorem grows_of_ensures {place after : Place} {path : String} {result : Except FileFault Unit}
    (h : place.Does (FileAccess.ensureDirectory path) result after) : place.Grows after := by
  rw [← h.after_eq]
  exact laysDirectories_ensureDirectory path place

end DownloadSite
