import Mathlib.Data.List.Infix
import DownloadSite.Proofs.Files.Growth
import DownloadSite.Proofs.Files.Names

/-!
# Plain paths

A relative path of proper names leads to one location, whatever the tree holds. On the way there a walk stops
at a file (`walk_of_hasFile`) or where something is missing (`walk_of_missing`), and nowhere else. A file is
written there unless there is a directory (`write_of_isDirectoryAt`).
-/

namespace DownloadSite

open FileTree

/-! ### Walks along proper names -/

namespace FileTree

variable {tree : FileTree} {location : Location} {names above below : List String} {name : String}

def HasFile (tree : FileTree) (location : Location) : Prop :=
  ∃ content, tree.view location = some (.file content)

/-- There is a file where the names lead from the location, or on the way there. -/
def Blocked (tree : FileTree) (location : Location) (names : List String) : Prop :=
  ∃ above, above <+: names ∧ tree.HasFile (location ++ above)

theorem HasFile.isDirectoryAt_eq_false (h : tree.HasFile location) : tree.isDirectoryAt location = false := by
  obtain ⟨content, hview⟩ := h
  apply FileTree.isDirectoryAt_eq_false
  rw [hview]
  exact nofun

theorem HasFile.isSome (h : tree.HasFile location) : (tree.view location).isSome := by
  obtain ⟨content, hview⟩ := h
  rw [hview]
  rfl

theorem isSome_of_isDirectoryAt (h : tree.isDirectoryAt location = true) : (tree.view location).isSome := by
  rw [isDirectoryAt_iff.1 h]
  rfl

theorem isDirectoryAt_of_isSome_below (h : (tree.view (location ++ name :: below)).isSome) :
    tree.isDirectoryAt location = true := by
  cases hdirectory : tree.isDirectoryAt location with
  | true => rfl
  | false =>
    rw [view_below_eq_none hdirectory] at h
    cases h

theorem isDirectoryAt_of_isSome_concat (h : (tree.view (location ++ (names ++ [name]))).isSome) :
    tree.isDirectoryAt (location ++ names) = true := by
  rw [← List.append_assoc] at h
  exact isDirectoryAt_of_isSome_below h

theorem isDirectoryAt_of_not_blocked (h : ¬ tree.Blocked location names)
    (hsome : (tree.view (location ++ names)).isSome) : tree.isDirectoryAt (location ++ names) = true := by
  rw [isDirectoryAt_iff]
  cases hview : tree.view (location ++ names) with
  | none =>
    rw [hview] at hsome
    cases hsome
  | some entry =>
    cases entry with
    | file content => exact absurd ⟨names, List.prefix_rfl, content, hview⟩ h
    | directory => rfl

theorem Blocked.mono (h : tree.Blocked location above) (hway : above <+: names) :
    tree.Blocked location names := by
  obtain ⟨first, hfirst, hfile⟩ := h
  exact ⟨first, hfirst.trans hway, hfile⟩

theorem blocked_concat_iff : tree.Blocked location (names ++ [name]) ↔
    tree.Blocked location names ∨ tree.HasFile (location ++ names ++ [name]) := by
  constructor
  · rintro ⟨above, hway, hfile⟩
    rcases List.prefix_concat_iff.1 hway with rfl | hway
    · rw [← List.append_assoc] at hfile
      exact .inr hfile
    · exact .inl ⟨above, hway, hfile⟩
  · rintro (hblocked | hfile)
    · exact hblocked.mono (List.prefix_append _ _)
    · rw [List.append_assoc] at hfile
      exact ⟨_, List.prefix_rfl, hfile⟩

theorem walk_cons_of_isProper (h : IsProper name) (tree : FileTree) (location : Location) (rest : List String) :
    tree.walk location (name :: rest) =
      if tree.isDirectoryAt location then
        if (tree.view (location ++ [name])).isSome then tree.walk (location ++ [name]) rest
        else .error .missing
      else .error .notDirectory := by
  rw [walk, if_neg h.ne_dot, if_neg h.ne_dots, if_neg (Nat.not_lt.2 h.short), view, Option.isSome_map]
  cases tree.isDirectoryAt location
  · rfl
  · cases tree.get? (location ++ [name]) <;> rfl

theorem walk_of_isSome (hproper : ∀ name ∈ names, IsProper name)
    (h : (tree.view (location ++ names)).isSome) : tree.walk location names = .ok (location ++ names) := by
  induction names generalizing location with
  | nil => rw [List.append_nil, walk]
  | cons name rest ih =>
    have hall : location ++ name :: rest = location ++ [name] ++ rest := by simp
    have hpresent : (tree.view (location ++ [name])).isSome := by
      cases rest with
      | nil => exact h
      | cons second rest =>
        rw [hall] at h
        exact isSome_of_isDirectoryAt (isDirectoryAt_of_isSome_below h)
    rw [walk_cons_of_isProper (hproper name List.mem_cons_self), if_pos (isDirectoryAt_of_isSome_below h),
      if_pos hpresent, hall]
    exact ih (fun other hother => hproper other (List.mem_cons_of_mem _ hother)) (hall ▸ h)

theorem walk_of_hasFile (hproper : ∀ other ∈ above ++ name :: below, IsProper other)
    (h : tree.HasFile (location ++ above)) :
    tree.walk location (above ++ name :: below) = .error .notDirectory := by
  have hwalk : tree.walk location above = .ok (location ++ above) :=
    walk_of_isSome (fun other hother => hproper other (List.mem_append_left _ hother)) h.isSome
  have hname : IsProper name := hproper name (by simp)
  rw [walk_append, hwalk]
  show tree.walk (location ++ above) (name :: below) = _
  rw [walk_cons_of_isProper hname, h.isDirectoryAt_eq_false]
  rfl

theorem walk_of_missing (hproper : ∀ name ∈ names, IsProper name)
    (hdirectory : tree.isDirectoryAt location = true) (hclear : ¬ tree.Blocked location names)
    (h : tree.view (location ++ names) = none) : tree.walk location names = .error .missing := by
  induction names generalizing location with
  | nil =>
    rw [List.append_nil, isDirectoryAt_iff.1 hdirectory] at *
    cases h
  | cons name rest ih =>
    rw [walk_cons_of_isProper (hproper name List.mem_cons_self), if_pos hdirectory]
    split
    · next hpresent =>
      have hfirst : ¬ tree.Blocked location [name] := fun hblocked =>
        hclear (hblocked.mono ⟨rest, rfl⟩)
      apply ih (fun other hother => hproper other (List.mem_cons_of_mem _ hother))
        (isDirectoryAt_of_not_blocked hfirst hpresent)
      · rintro ⟨above, hway, hfile⟩
        refine hclear ⟨name :: above, List.cons_prefix_cons.2 ⟨rfl, hway⟩, ?_⟩
        rwa [List.append_assoc, List.singleton_append] at hfile
      · rwa [List.append_assoc, List.singleton_append]
    · rfl

end FileTree

/-! ### The paths -/

namespace Path

variable {path name : String} {names : List String}

/-- A relative path of proper names that the system takes. -/
structure IsPlain (path : String) : Prop where
  relative : isAbsolute path = false
  proper : ∀ name ∈ steps path, IsProper name
  nul_notMem : '\x00' ∉ path.toList
  short : path.utf8ByteSize ≤ Place.maxPathBytes

instance (path : String) : Decidable (IsPlain path) :=
  decidable_of_iff (isAbsolute path = false ∧ (∀ name ∈ steps path, IsProper name) ∧ '\x00' ∉ path.toList ∧
      path.utf8ByteSize ≤ Place.maxPathBytes)
    ⟨fun ⟨relative, proper, nul, short⟩ => ⟨relative, proper, nul, short⟩,
      fun h => ⟨h.relative, h.proper, h.nul_notMem, h.short⟩⟩

theorem mem_toList_ofComponents {c : Char} (h : c ∈ (ofComponents false names).toList) :
    c = '/' ∨ ∃ name ∈ names, c ∈ name.toList := by
  induction names with
  | nil => cases h
  | cons name rest ih =>
    cases rest with
    | nil =>
      rw [ofComponents_singleton] at h
      exact .inr ⟨name, List.mem_cons_self, h⟩
    | cons second rest =>
      rw [ofComponents_cons (List.cons_ne_nil _ _), String.toList_append, String.toList_append,
        List.mem_append, List.mem_append] at h
      rcases h with (h | h) | h
      · exact .inr ⟨name, List.mem_cons_self, h⟩
      · exact .inl (List.mem_singleton.1 h)
      · exact (ih h).imp_right fun ⟨other, hother, hc⟩ => ⟨other, List.mem_cons_of_mem _ hother, hc⟩

theorem IsName.isAbsolute_append (h : IsName name) (text : String) : isAbsolute (name ++ text) = false := by
  obtain ⟨c, rest, hname⟩ := List.exists_cons_of_ne_nil (by simpa using h.ne_empty : name.toList ≠ [])
  have hc : c ≠ '/' := by
    rintro rfl
    exact h.slash_notMem (hname ▸ List.mem_cons_self)
  simp [isAbsolute, hname, hc]

theorem isAbsolute_ofComponents (h : ∀ name ∈ names, IsName name) :
    isAbsolute (ofComponents false names) = false := by
  cases names with
  | nil => rfl
  | cons name rest =>
    have hname := h name List.mem_cons_self
    cases rest with
    | nil =>
      rw [ofComponents_singleton, ← String.append_empty (s := name)]
      exact hname.isAbsolute_append ""
    | cons second rest =>
      rw [ofComponents_cons (List.cons_ne_nil _ _), String.append_assoc]
      exact hname.isAbsolute_append _

theorem above_cons {up : List String} (hne : up ≠ []) (name : String) :
    above false (name :: up) = ofComponents false up.reverse :: above false up := by
  obtain ⟨second, rest, rfl⟩ := List.exists_cons_of_ne_nil hne
  rfl

theorem utf8ByteSize_join (path name : String) : (join path name).utf8ByteSize =
    path.utf8ByteSize + (if path.isEmpty || endsInSlash path then 0 else 1) + name.utf8ByteSize := by
  rw [join]
  split
  · rw [String.utf8ByteSize_append]
    omega
  · rw [String.utf8ByteSize_append, String.utf8ByteSize_append]
    rfl

namespace IsPlain

theorem proper_above (h : IsPlain path) {above : List String} (hsteps : steps path = above ++ [name]) :
    ∀ other ∈ above, IsProper other := by
  intro other hother
  apply h.proper
  rw [hsteps]
  exact List.mem_append_left _ hother

theorem checkPath_eq (h : IsPlain path) (hne : steps path ≠ []) : Place.checkPath path = .ok () := by
  have hnul : path.toList.contains '\x00' = false := by
    rw [List.contains_eq_mem, decide_eq_false_iff_not]
    exact h.nul_notMem
  have hempty : path.isEmpty = false := by
    rw [← Bool.not_eq_true]
    intro hempty
    rw [String.isEmpty_iff] at hempty
    rw [hempty] at hne
    exact hne rfl
  rw [Place.checkPath, hnul, hempty, if_neg Bool.false_ne_true, if_neg Bool.false_ne_true,
    if_neg (Nat.not_lt.2 h.short)]

theorem start_eq (h : IsPlain path) (place : Place) : place.start path = place.current := by
  rw [Place.start, h.relative, if_neg Bool.false_ne_true]

theorem components_eq (h : IsPlain path) : components path = steps path := by
  have hproper := h.proper
  unfold components
  cases hsteps : steps path with
  | nil => rfl
  | cons first rest =>
    rw [hsteps] at hproper
    have hdots : ∀ other ∈ rest, ¬ other = "." := fun other hother =>
      (hproper other (List.mem_cons_of_mem _ hother)).ne_dot
    simpa [h.relative] using hdots

theorem ancestors_eq (h : IsPlain path) : ancestors path = above false (steps path).reverse := by
  rw [ancestors, h.relative, h.components_eq]

theorem ofComponents (h : IsPlain path) (hway : names <+: steps path) :
    IsPlain (Path.ofComponents false names) ∧ steps (Path.ofComponents false names) = names := by
  have hname : ∀ name ∈ names, IsName name := fun name hname => isName_of_mem_steps (hway.subset hname)
  have hsteps : steps (Path.ofComponents false names) = names := steps_ofComponents hname
  refine ⟨⟨isAbsolute_ofComponents hname, ?_, ?_, ?_⟩, hsteps⟩
  · rw [hsteps]
    exact fun name hname => h.proper name (hway.subset hname)
  · intro hnul
    rcases mem_toList_ofComponents hnul with hslash | ⟨name, hname, hc⟩
    · exact absurd hslash (by decide)
    · exact h.nul_notMem (mem_toList_of_mem_steps (hway.subset hname) hc)
  · exact (utf8ByteSize_ofComponents_le hway.sublist).trans h.short

protected theorem join (h : IsPlain path) (hname : IsName name) (hproper : IsProper name)
    (hnul : '\x00' ∉ name.toList) (hshort : (Path.join path name).utf8ByteSize ≤ Place.maxPathBytes) :
    IsPlain (Path.join path name) where
  relative := (isAbsolute_join path hname).trans h.relative
  proper := by
    rw [steps_join path hname]
    intro other hother
    rcases List.mem_append.1 hother with hother | hother
    · exact h.proper other hother
    · rw [List.mem_singleton.1 hother]
      exact hproper
  nul_notMem := by
    rw [Path.join]
    split
    · simp [h.nul_notMem, hnul]
    · simp [h.nul_notMem, hnul]
  short := hshort

end IsPlain

end Path

/-! ### Steps on plain paths -/

namespace Place

variable {place after : Place} {path name : String} {above names : List String} {fault : FileFault}
  {content : ByteArray}

theorem locate_of_isSome (h : Path.IsPlain path) (hne : Path.steps path ≠ [])
    (hsome : (place.root.view (place.current ++ Path.steps path)).isSome) :
    place.locate path =
      if Path.endsInSlash path && !place.root.isDirectoryAt (place.current ++ Path.steps path) then
        .error .notDirectory
      else .ok (place.current ++ Path.steps path) := by
  rw [locate, h.checkPath_eq hne, h.start_eq]
  dsimp only [bind, Except.bind]
  rw [walk_of_isSome h.proper hsome]

theorem isDirectory_of_isSome (h : Path.IsPlain path) (hne : Path.steps path ≠ [])
    (hsome : (place.root.view (place.current ++ Path.steps path)).isSome) :
    place.isDirectory path = place.root.isDirectoryAt (place.current ++ Path.steps path) := by
  rw [isDirectory, locate_of_isSome h hne hsome]
  cases hdirectory : place.root.isDirectoryAt (place.current ++ Path.steps path)
  · cases Path.endsInSlash path
    · exact hdirectory
    · rfl
  · rw [Bool.not_true, Bool.and_false, if_neg Bool.false_ne_true]
    exact hdirectory

theorem locateLast_eq (h : Path.IsPlain path) (hsteps : Path.steps path = above ++ [name]) :
    place.locateLast path = (place.root.walk place.current above).bind fun parent =>
      if place.root.isDirectoryAt parent then .ok (parent, some name) else .error .notDirectory := by
  have hne : Path.steps path ≠ [] := by
    rw [hsteps]
    exact List.append_ne_nil_of_right_ne_nil _ (List.cons_ne_nil _ _)
  have hproper : IsProper name := h.proper name (by simp [hsteps])
  rw [locateLast, h.checkPath_eq hne, h.start_eq, hsteps]
  show (place.root.walk place.current (above ++ [name]).dropLast).bind _ = _
  rw [List.dropLast_concat, List.getLast?_concat]
  congr 1
  funext parent
  dsimp only
  rw [if_neg (not_or.2 ⟨hproper.ne_dot, hproper.ne_dots⟩), if_neg (Nat.not_lt.2 hproper.short)]
  cases place.root.isDirectoryAt parent <;> rfl

theorem locateLast_of_isDirectoryAt (h : Path.IsPlain path) (hsteps : Path.steps path = above ++ [name])
    (hparent : place.root.isDirectoryAt (place.current ++ above) = true) :
    place.locateLast path = .ok (place.current ++ above, some name) := by
  rw [locateLast_eq h hsteps, walk_of_isSome (h.proper_above hsteps) (isSome_of_isDirectoryAt hparent)]
  exact if_pos hparent

theorem locateLast_of_hasFile (h : Path.IsPlain path) (hsteps : Path.steps path = above ++ [name])
    (hway : names <+: above) (hfile : place.root.HasFile (place.current ++ names)) :
    place.locateLast path = .error .notDirectory := by
  have hproper := h.proper_above hsteps
  obtain ⟨below, rfl⟩ := hway
  rw [locateLast_eq h hsteps]
  cases below with
  | nil =>
    rw [List.append_nil] at hproper ⊢
    rw [walk_of_isSome hproper hfile.isSome]
    exact if_neg (by rw [hfile.isDirectoryAt_eq_false]; exact Bool.false_ne_true)
  | cons first rest =>
    rw [walk_of_hasFile hproper hfile]
    rfl

theorem locateLast_of_missing (h : Path.IsPlain path) (hsteps : Path.steps path = above ++ [name])
    (hcurrent : place.root.isDirectoryAt place.current = true)
    (hclear : ¬ place.root.Blocked place.current above)
    (hparent : place.root.isDirectoryAt (place.current ++ above) ≠ true) :
    place.locateLast path = .error .missing := by
  have hmissing : place.root.view (place.current ++ above) = none := by
    rw [← Option.not_isSome_iff_eq_none]
    exact fun hsome => hparent (isDirectoryAt_of_not_blocked hclear hsome)
  rw [locateLast_eq h hsteps, walk_of_missing (h.proper_above hsteps) hcurrent hclear hmissing]
  rfl

theorem makeDirectory_of_isDirectoryAt (h : Path.IsPlain path) (hsteps : Path.steps path = above ++ [name])
    (hparent : place.root.isDirectoryAt (place.current ++ above) = true) :
    place.makeDirectory path =
      if (place.root.view (place.current ++ above ++ [name])).isSome then (.error .alreadyExists, place)
      else (.ok (), place.put (place.current ++ above ++ [name]) (.directory [])) := by
  rw [makeDirectory, locateLast_of_isDirectoryAt h hsteps hparent, view, Option.isSome_map]

theorem makeDirectory_of_isSome (h : Path.IsPlain path) (hsteps : Path.steps path = above ++ [name])
    (hsome : (place.root.view (place.current ++ Path.steps path)).isSome) :
    place.makeDirectory path = (.error .alreadyExists, place) := by
  have hparent : place.root.isDirectoryAt (place.current ++ above) = true :=
    isDirectoryAt_of_isSome_concat (hsteps ▸ hsome)
  rw [makeDirectory_of_isDirectoryAt h hsteps hparent, List.append_assoc, ← hsteps, if_pos hsome]

/-! ### Writing files -/

theorem write_of_isDirectoryAt (h : Path.IsPlain path) (hslash : Path.endsInSlash path = false)
    (hsteps : Path.steps path = above ++ [name])
    (hparent : place.root.isDirectoryAt (place.current ++ above) = true) :
    place.write path content =
      if place.root.isDirectoryAt (place.current ++ above ++ [name]) then (.error .isDirectory, place)
      else (.ok (), place.put (place.current ++ above ++ [name]) (.file content)) := by
  rw [write, locateLast_of_isDirectoryAt h hsteps hparent, hslash]
  simp only [Bool.false_or]

/-- A file is not written only if there is a directory in its place. -/
theorem isDirectoryAt_of_write_eq_error (h : Path.IsPlain path) (hslash : Path.endsInSlash path = false)
    (hsteps : Path.steps path = above ++ [name])
    (hparent : place.root.isDirectoryAt (place.current ++ above) = true)
    (hwrite : place.write path content = (.error fault, after)) :
    place.root.isDirectoryAt (place.current ++ above ++ [name]) = true := by
  rw [write_of_isDirectoryAt h hslash hsteps hparent] at hwrite
  split at hwrite
  · assumption
  · cases hwrite

theorem stores_of_write (h : Path.IsPlain path) (hsteps : Path.steps path = above ++ [name])
    (hparent : place.root.isDirectoryAt (place.current ++ above) = true)
    (hwrite : place.write path content = (.ok (), after)) :
    place.Stores path content after (place.current ++ above) name := by
  obtain ⟨parent, last, hstores⟩ := exists_stores_of_write hwrite
  obtain ⟨front, hfront, hwalk⟩ := hstores.target.leads
  rw [hsteps] at hfront
  obtain ⟨rfl, hlast⟩ := List.append_inj' hfront rfl
  obtain rfl := List.singleton_inj.1 hlast
  rw [h.start_eq, walk_of_isSome (h.proper_above hsteps) (isSome_of_isDirectoryAt hparent)] at hwalk
  obtain rfl := Except.ok.inj hwalk
  exact hstores

end Place

end DownloadSite
