import DownloadSite.Proofs.Files.OpenWay
import DownloadSite.Proofs.Site.Course

/-!
# What keeps a site from being written

On a plain path only files and directories in the wrong places can do that. The step that meets the first of
them fails, and it finds the place as it was, but for the last step, which finds the stylesheet written
(`write_outcome`). All this is for paths with room for the names of the site's files: behind a longer one no
site is written, whatever the place (`exists_error_of_long`).
-/

namespace DownloadSite.Site

open FileTree

/-- The location that a plain output path leads to. -/
def outputLocation (output : String) (place : Place) : Location := place.current ++ Path.steps output

/-- The output or a directory above it is a file. -/
def OutputBlocked (output : String) (place : Place) : Prop :=
  place.root.Blocked place.current (Path.steps output)

/-- There is a file where the directory of the stylesheet has to be. -/
def AssetsBlocked (output : String) (place : Place) : Prop :=
  place.root.HasFile (outputLocation output place ++ [assetsName])

/-- There is a directory where the stylesheet has to be. -/
def StylesheetBlocked (output : String) (place : Place) : Prop :=
  place.root.view (outputLocation output place ++ [assetsName, stylesheetName]) = some .directory

/-- There is a directory where the page has to be. -/
def PageBlocked (output : String) (place : Place) : Prop :=
  place.root.view (outputLocation output place ++ [pageName]) = some .directory

/-- The stylesheet is written, and nothing but its directory may be new besides. -/
structure HasStylesheetOnly (output : String) (place after : Place) : Prop where
  current_eq : after.current = place.current
  assets : after.root.view (outputLocation output place ++ [assetsName]) = some .directory
  stylesheet : after.root.view (outputLocation output place ++ [assetsName, stylesheetName]) =
    some (.file (Text.encode Stylesheet.text))
  elsewhere : ∀ location, location ≠ outputLocation output place ++ [assetsName] →
    location ≠ outputLocation output place ++ [assetsName, stylesheetName] →
      after.root.view location = place.root.view location

/-- The page and the stylesheet are written, and the directories above them are there. -/
structure HasSite (site : Site) (output : String) (place after : Place) : Prop where
  current_eq : after.current = place.current
  page : after.root.view (outputLocation output place ++ [pageName]) = some (.file (Text.encode site.page))
  stylesheet : after.root.view (outputLocation output place ++ [assetsName, stylesheetName]) =
    some (.file (Text.encode Stylesheet.text))
  /-- The new directories are the missing ones among the output, those above it and that of the stylesheet. -/
  new_directory : ∀ location,
    (after.root.view location = some .directory ∧ place.root.view location ≠ some .directory) ↔
      (place.root.view location = none ∧
        ∃ above, above <+: Path.steps output ++ [assetsName] ∧ location = place.current ++ above)
  elsewhere : ∀ location, location ≠ outputLocation output place ++ [pageName] →
    location ≠ outputLocation output place ++ [assetsName, stylesheetName] →
      after.root.view location ≠ some .directory → after.root.view location = place.root.view location

/-- The first obstacle decides the error. -/
inductive WriteOutcome (site : Site) (output : String) (place : Place) : Except WriteFault String → Place → Prop where
  | output (fault : FileFault) (hblocked : OutputBlocked output place) :
      WriteOutcome site output place (.error (.outputDirectory output fault)) place
  | assets (fault : FileFault) (houtput : ¬ OutputBlocked output place) (hblocked : AssetsBlocked output place) :
      WriteOutcome site output place (.error (.assetsDirectory (assetsPath output) fault)) place
  | stylesheet (fault : FileFault) (houtput : ¬ OutputBlocked output place) (hassets : ¬ AssetsBlocked output place)
      (hblocked : StylesheetBlocked output place) :
      WriteOutcome site output place (.error (.asset stylesheetName fault)) place
  | page {after : Place} (fault : FileFault) (houtput : ¬ OutputBlocked output place)
      (hassets : ¬ AssetsBlocked output place) (hstylesheet : ¬ StylesheetBlocked output place)
      (hblocked : PageBlocked output place) (hafter : HasStylesheetOnly output place after) :
      WriteOutcome site output place (.error (.page (pagePath output) fault)) after
  | complete {after : Place} (houtput : ¬ OutputBlocked output place)
      (hassets : ¬ AssetsBlocked output place) (hstylesheet : ¬ StylesheetBlocked output place)
      (hpage : ¬ PageBlocked output place) (hafter : HasSite site output place after) :
      WriteOutcome site output place (.ok (pagePath output)) after

variable {site : Site} {output : String} {place first second third after : Place} {fault : FileFault}

/-! ### The paths of a site -/

theorem isPlain_assetsPath (h : Path.IsPlain output)
    (hshort : (stylesheetPath output).utf8ByteSize ≤ Place.maxPathBytes) : Path.IsPlain (assetsPath output) := by
  apply h.join isName_assetsName isProper_assetsName (by decide)
  rw [stylesheetPath, Path.utf8ByteSize_join] at hshort
  rw [assetsPath] at hshort
  omega

theorem isPlain_stylesheetPath (h : Path.IsPlain output)
    (hshort : (stylesheetPath output).utf8ByteSize ≤ Place.maxPathBytes) :
    Path.IsPlain (stylesheetPath output) :=
  (isPlain_assetsPath h hshort).join isName_stylesheetName ⟨by decide, by decide, by decide⟩ (by decide) hshort

theorem isPlain_pagePath (h : Path.IsPlain output)
    (hshort : (stylesheetPath output).utf8ByteSize ≤ Place.maxPathBytes) : Path.IsPlain (pagePath output) := by
  apply h.join isName_pageName ⟨by decide, by decide, by decide⟩ (by decide)
  have hpage : pageName.utf8ByteSize = 13 := by decide
  have hassets : assetsName.utf8ByteSize = 6 := by decide
  have hstylesheet : stylesheetName.utf8ByteSize = 8 := by decide
  rw [stylesheetPath, Path.utf8ByteSize_join, assetsPath, Path.utf8ByteSize_join] at hshort
  rw [Path.utf8ByteSize_join]
  omega

theorem steps_assetsPath (output : String) : Path.steps (assetsPath output) = Path.steps output ++ [assetsName] :=
  Path.steps_join output isName_assetsName

theorem steps_stylesheetPath (output : String) :
    Path.steps (stylesheetPath output) = Path.steps output ++ [assetsName] ++ [stylesheetName] := by
  rw [stylesheetPath, Path.steps_join _ isName_stylesheetName, steps_assetsPath]

theorem steps_pagePath (output : String) : Path.steps (pagePath output) = Path.steps output ++ [pageName] :=
  Path.steps_join output isName_pageName

/-! ### The cases -/

theorem not_outputBlocked_of_ensured (h : place.Ensured (Path.steps output) (.ok ()) first) :
    ¬ OutputBlocked output place := by
  cases h with
  | opened hclear _ _ => exact hclear

theorem ensured_assets (h : Path.IsPlain output)
    (hshort : (stylesheetPath output).utf8ByteSize ≤ Place.maxPathBytes) {result : Except FileFault Unit}
    (houtput : place.Ensured (Path.steps output) (.ok ()) first)
    (hassets : first.Does (FileAccess.ensureDirectory (assetsPath output)) result second) :
    place.Ensured (Path.steps output ++ [assetsName]) result second := by
  apply houtput.trans
  cases houtput with
  | opened _ hopens _ =>
    rw [← steps_assetsPath]
    exact Place.ensured_of_does hopens.isDirectoryAt_current (isPlain_assetsPath h hshort) hassets

/-- The way to the stylesheet's directory is open in the second place. -/
structure Ready (output : String) (place second : Place) : Prop where
  output_clear : ¬ OutputBlocked output place
  assets_clear : ¬ AssetsBlocked output place
  opens : place.Opens (Path.steps output ++ [assetsName]) second
  kept : place.root.isDirectoryAt (outputLocation output place ++ [assetsName]) = true → second = place

theorem ready_of_ensured (h : place.Ensured (Path.steps output ++ [assetsName]) (.ok ()) second) :
    Ready output place second := by
  cases h with
  | opened hclear hopens hkept =>
    rw [blocked_concat_iff, not_or] at hclear
    rw [← List.append_assoc] at hkept
    exact ⟨hclear.1, hclear.2, hopens, hkept⟩

namespace Ready

variable {content : ByteArray} (h : Ready output place second)
include h

theorem not_blocked : ¬ place.root.Blocked place.current (Path.steps output ++ [assetsName]) := by
  rw [blocked_concat_iff, not_or]
  exact ⟨h.output_clear, h.assets_clear⟩

theorem isDirectoryAt_assets :
    second.root.isDirectoryAt (second.current ++ (Path.steps output ++ [assetsName])) = true :=
  h.opens.isDirectoryAt

theorem isDirectoryAt_output : second.root.isDirectoryAt (second.current ++ Path.steps output) = true :=
  isDirectoryAt_of_isSome_concat (isSome_of_isDirectoryAt h.isDirectoryAt_assets)

theorem assets_eq : second.current ++ (Path.steps output ++ [assetsName]) =
    outputLocation output place ++ [assetsName] := by
  rw [h.opens.current_eq, ← List.append_assoc]
  rfl

theorem view_stylesheet : second.root.view (outputLocation output place ++ [assetsName, stylesheetName]) =
    place.root.view (outputLocation output place ++ [assetsName, stylesheetName]) := by
  have hview := h.opens.view_below stylesheetName []
  simpa [outputLocation] using hview

theorem view_page : second.root.view (outputLocation output place ++ [pageName]) =
    place.root.view (outputLocation output place ++ [pageName]) :=
  h.opens.view_beside (by decide) []

theorem stylesheetBlocked (hplain : Path.IsPlain (stylesheetPath output))
    (hwrite : second.write (stylesheetPath output) content = (.error fault, after)) :
    StylesheetBlocked output place := by
  have hdirectory := Place.isDirectoryAt_of_write_eq_error hplain
    (Path.endsInSlash_join _ isName_stylesheetName) (steps_stylesheetPath output) h.isDirectoryAt_assets hwrite
  rw [h.assets_eq, List.append_assoc, isDirectoryAt_iff] at hdirectory
  exact h.view_stylesheet.symm.trans hdirectory

theorem stores_stylesheet (hplain : Path.IsPlain (stylesheetPath output))
    (hwrite : second.write (stylesheetPath output) content = (.ok (), third)) :
    second.Stores (stylesheetPath output) content third (outputLocation output place ++ [assetsName])
      stylesheetName := by
  rw [← h.assets_eq]
  exact Place.stores_of_write hplain (steps_stylesheetPath output) h.isDirectoryAt_assets hwrite

variable (hstylesheet : second.Stores (stylesheetPath output) content third
  (outputLocation output place ++ [assetsName]) stylesheetName)
include hstylesheet

theorem not_stylesheetBlocked : ¬ StylesheetBlocked output place := by
  have hne := hstylesheet.view_ne
  rw [List.append_assoc] at hne
  rw [StylesheetBlocked, ← h.view_stylesheet]
  exact hne

theorem isDirectoryAt_output_of_stores :
    third.root.isDirectoryAt (third.current ++ Path.steps output) = true := by
  rw [hstylesheet.current_eq]
  exact hstylesheet.keeps.isDirectoryAt h.isDirectoryAt_output

theorem output_eq_of_stores : third.current ++ Path.steps output = outputLocation output place := by
  rw [hstylesheet.current_eq, h.opens.current_eq]
  rfl

theorem view_page_of_stores : third.root.view (outputLocation output place ++ [pageName]) =
    place.root.view (outputLocation output place ++ [pageName]) := by
  rw [hstylesheet.view_other _ (by simp), h.view_page]

theorem pageBlocked {pageContent : ByteArray} (hplain : Path.IsPlain (pagePath output))
    (hwrite : third.write (pagePath output) pageContent = (.error fault, after)) : PageBlocked output place := by
  have hdirectory := Place.isDirectoryAt_of_write_eq_error hplain (Path.endsInSlash_join _ isName_pageName)
    (steps_pagePath output) (h.isDirectoryAt_output_of_stores hstylesheet) hwrite
  rw [h.output_eq_of_stores hstylesheet, isDirectoryAt_iff] at hdirectory
  exact (h.view_page_of_stores hstylesheet).symm.trans hdirectory

theorem stores_page {pageContent : ByteArray} (hplain : Path.IsPlain (pagePath output))
    (hwrite : third.write (pagePath output) pageContent = (.ok (), after)) :
    third.Stores (pagePath output) pageContent after (outputLocation output place) pageName := by
  rw [← h.output_eq_of_stores hstylesheet]
  exact Place.stores_of_write hplain (steps_pagePath output) (h.isDirectoryAt_output_of_stores hstylesheet) hwrite

end Ready

theorem Ready.hasStylesheetOnly (h : Ready output place second) (hblocked : PageBlocked output place)
    (hstylesheet : second.Stores (stylesheetPath output) (Text.encode Stylesheet.text) third
      (outputLocation output place ++ [assetsName]) stylesheetName) : HasStylesheetOnly output place third := by
  have hassoc : outputLocation output place ++ [assetsName] ++ [stylesheetName] =
      outputLocation output place ++ [assetsName, stylesheetName] := List.append_assoc _ _ _
  have houtput : place.root.isDirectoryAt (place.current ++ Path.steps output) = true :=
    isDirectoryAt_of_isSome_below (Option.isSome_of_eq_some hblocked)
  have hassets : second.root.view (outputLocation output place ++ [assetsName]) = some .directory := by
    rw [← h.assets_eq]
    exact isDirectoryAt_iff.1 h.isDirectoryAt_assets
  refine ⟨hstylesheet.current_eq.trans h.opens.current_eq, hstylesheet.keeps.directory _ hassets,
    hassoc ▸ hstylesheet.view_eq, ?_⟩
  intro location hnotAssets hnotStylesheet
  rw [hstylesheet.view_other location (hassoc ▸ hnotStylesheet)]
  by_cases hdirectory : second.root.view location = some .directory
  · by_contra hne
    have hnew := (h.opens.new_directory_iff h.not_blocked location).1 ⟨hdirectory, hdirectory ▸ Ne.symm hne⟩
    obtain ⟨-, above, hway, rfl⟩ := hnew
    rcases List.prefix_concat_iff.1 hway with rfl | hway
    · rw [← List.append_assoc] at hnotAssets
      exact hnotAssets rfl
    · have hbefore := (Place.Opens.of_isDirectoryAt houtput).on_way above hway
      exact hne (hdirectory.trans hbefore.symm)
  · exact h.opens.view_of_ne_directory hdirectory

theorem Ready.hasSite (h : Ready output place second)
    (hstylesheet : second.Stores (stylesheetPath output) (Text.encode Stylesheet.text) third
      (outputLocation output place ++ [assetsName]) stylesheetName)
    (hpage : third.Stores (pagePath output) (Text.encode site.page) after (outputLocation output place) pageName) :
    HasSite site output place after := by
  have hassoc : outputLocation output place ++ [assetsName] ++ [stylesheetName] =
      outputLocation output place ++ [assetsName, stylesheetName] := List.append_assoc _ _ _
  have hdirectory : ∀ location, after.root.view location = some .directory ↔
      second.root.view location = some .directory := fun location =>
    (hpage.directory_iff location).trans (hstylesheet.directory_iff location)
  refine ⟨hpage.current_eq.trans (hstylesheet.current_eq.trans h.opens.current_eq), hpage.view_eq, ?_, ?_, ?_⟩
  · rw [hpage.view_other _ (by simp), ← hassoc]
    exact hstylesheet.view_eq
  · intro location
    rw [hdirectory]
    exact h.opens.new_directory_iff h.not_blocked location
  · intro location hnotPage hnotStylesheet hne
    rw [ne_eq, hdirectory] at hne
    rw [hpage.view_other location hnotPage, hstylesheet.view_other location (hassoc ▸ hnotStylesheet)]
    exact h.opens.view_of_ne_directory hne

theorem outcome_of_course {written : Written String} (hcurrent : place.root.isDirectoryAt place.current = true)
    (h : Path.IsPlain output) (hshort : (stylesheetPath output).utf8ByteSize ≤ Place.maxPathBytes)
    (hcourse : WriteCourse site output place written after) :
    WriteOutcome site output place written.result after := by
  have hplain := isPlain_stylesheetPath h hshort
  cases hcourse with
  | noOutput houtput =>
    cases Place.ensured_of_does hcurrent h houtput with
    | blocked _ hblocked => exact .output _ hblocked
  | noAssets houtput hassets =>
    have houtput := Place.ensured_of_does hcurrent h houtput
    have hclear := not_outputBlocked_of_ensured houtput
    cases ensured_assets h hshort houtput hassets with
    | blocked fault hblocked =>
      rcases blocked_concat_iff.1 hblocked with hblocked | hfile
      · exact absurd hblocked hclear
      · exact .assets _ hclear hfile
  | noStylesheet houtput hassets hwrite =>
    have hready := ready_of_ensured
      (ensured_assets h hshort (Place.ensured_of_does hcurrent h houtput) hassets)
    have hblocked := hready.stylesheetBlocked hplain hwrite
    have hassets : place.root.isDirectoryAt (outputLocation output place ++ [assetsName]) = true := by
      apply isDirectoryAt_of_isSome_below
      rw [List.append_assoc]
      exact Option.isSome_of_eq_some hblocked
    obtain rfl := hready.kept hassets
    exact .stylesheet _ hready.output_clear hready.assets_clear hblocked
  | noPage houtput hassets hstylesheet hwrite =>
    have hready := ready_of_ensured
      (ensured_assets h hshort (Place.ensured_of_does hcurrent h houtput) hassets)
    have hstylesheet := hready.stores_stylesheet hplain hstylesheet
    have hblocked := hready.pageBlocked hstylesheet (isPlain_pagePath h hshort) hwrite
    exact .page _ hready.output_clear hready.assets_clear (hready.not_stylesheetBlocked hstylesheet) hblocked
      (hready.hasStylesheetOnly hblocked hstylesheet)
  | complete houtput hassets hstylesheet hpage =>
    have hready := ready_of_ensured
      (ensured_assets h hshort (Place.ensured_of_does hcurrent h houtput) hassets)
    have hstylesheet := hready.stores_stylesheet hplain hstylesheet
    have hpage := hready.stores_page hstylesheet (isPlain_pagePath h hshort) hpage
    refine .complete hready.output_clear hready.assets_clear (hready.not_stylesheetBlocked hstylesheet) ?_
      (hready.hasSite hstylesheet hpage)
    rw [PageBlocked, ← hready.view_page_of_stores hstylesheet]
    exact hpage.view_ne

/-- A site is not written exactly if there is an obstacle, and the first of them decides what is left. -/
theorem write_outcome (site : Site) (hcurrent : place.root.isDirectoryAt place.current = true)
    (h : Path.IsPlain output) (hshort : (stylesheetPath output).utf8ByteSize ≤ Place.maxPathBytes) :
    ((∃ fault, (place.answer (site.write output)).result = .error fault) ↔
      OutputBlocked output place ∨ AssetsBlocked output place ∨ StylesheetBlocked output place ∨
        PageBlocked output place) ∧
    WriteOutcome site output place (place.answer (site.write output)).result
      (place.after (site.write output)) := by
  have houtcome := outcome_of_course hcurrent h hshort
    (course_of_does_write (Place.Does.of_answer place (site.write output)))
  refine ⟨?_, houtcome⟩
  generalize (place.answer (site.write output)).result = result at houtcome ⊢
  generalize place.after (site.write output) = after at houtcome
  constructor
  · rintro ⟨fault, rfl⟩
    cases houtcome with
    | output _ hblocked => exact .inl hblocked
    | assets _ _ hblocked => exact .inr (.inl hblocked)
    | stylesheet _ _ _ hblocked => exact .inr (.inr (.inl hblocked))
    | page _ _ _ _ hblocked => exact .inr (.inr (.inr hblocked))
  · intro hblocked
    cases houtcome with
    | complete houtput hassets hstylesheet hpage =>
      rcases hblocked with hblocked | hblocked | hblocked | hblocked
      · exact absurd hblocked houtput
      · exact absurd hblocked hassets
      · exact absurd hblocked hstylesheet
      · exact absurd hblocked hpage
    | _ => exact ⟨_, rfl⟩

/-- A directory in the page's place, two directories below the current one. -/
theorem write_outcome_directoryForPage :
    let place : Place :=
      { root := .directory [("a", .directory [("b", .directory [("download.html", .directory [])])])]
        current := [] }
    ∃ fault, (place.answer ((ofResolved ⟨"1.1.8", "https://jode.sourceforge.net", ".html", "JODE"⟩).write
      "a//b/")).result = .error fault := by
  intro place
  exact (write_outcome _ (by decide) (by decide) (by decide)).1.2 (.inr (.inr (.inr rfl)))

/-! ### Paths that are too long -/

/-- An output that is short enough itself may leave no room for the names of the files. -/
theorem exists_error_of_long (site : Site) (place : Place)
    (hlong : Place.maxPathBytes < (stylesheetPath output).utf8ByteSize) :
    ∃ fault, (place.answer (site.write output)).result = .error fault := by
  have hcourse := course_of_does_write (Place.Does.of_answer place (site.write output))
  generalize place.answer (site.write output) = written at hcourse ⊢
  cases hcourse with
  | complete _ _ hstylesheet _ =>
    obtain ⟨parent, name, htarget, -⟩ := Place.target_of_write hstylesheet
    have hchecked := htarget.checked
    unfold Place.checkPath at hchecked
    rw [if_pos hlong] at hchecked
    split_ifs at hchecked
  | _ => exact ⟨_, rfl⟩

def slashed (slashes : Nat) : String := String.ofList ('a' :: List.replicate slashes '/')

theorem steps_slashed (slashes : Nat) : Path.steps (slashed slashes) = ["a"] := by
  have hparts : (List.replicate slashes '/').splitOn '/' = List.replicate (slashes + 1) [] := by
    induction slashes with
    | zero => rfl
    | succ slashes ih =>
      rw [List.replicate_succ, List.splitOn_cons_eq_if_modifyHead, if_pos (beq_self_eq_true _), ih,
        ← List.replicate_succ]
  have hsplit : (slashed slashes).toList.splitOn '/' = ['a'] :: List.replicate slashes [] := by
    rw [slashed, String.toList_ofList, List.splitOn_cons_eq_if_modifyHead, if_neg (by decide), hparts,
      List.replicate_succ, List.modifyHead_cons]
  rw [Path.steps, hsplit, List.filter_cons_of_pos (by decide), List.filter_replicate_of_neg (by decide)]
  rfl

theorem utf8ByteSize_slashed (slashes : Nat) : (slashed slashes).utf8ByteSize = slashes + 1 := by
  induction slashes with
  | zero => decide
  | succ slashes ih =>
    have hpush : slashed (slashes + 1) = slashed slashes ++ "/" := by
      apply String.toList_inj.1
      rw [slashed, slashed, String.toList_append, String.toList_ofList, String.toList_ofList,
        List.replicate_succ']
      rfl
    have hslash : "/".utf8ByteSize = 1 := by decide
    rw [hpush, String.utf8ByteSize_append]
    omega

theorem isPlain_slashed {slashes : Nat} (h : slashes < Place.maxPathBytes) : Path.IsPlain (slashed slashes) where
  relative := by
    rw [Path.isAbsolute, slashed, String.toList_ofList, List.head?_cons]
    decide
  proper := by
    rw [steps_slashed]
    decide
  nul_notMem := by
    rw [slashed, String.toList_ofList, List.mem_cons, List.mem_replicate]
    rintro (hnul | ⟨-, hnul⟩)
    · exact absurd hnul (by decide)
    · exact absurd hnul (by decide)
  short := by
    rw [utf8ByteSize_slashed]
    exact h

/-- Nothing is in the way of the site, and it is not written. -/
theorem write_slashed_eq_error :
    let place : Place := { root := .directory [], current := [] }
    place.root.isDirectoryAt place.current = true ∧ Path.IsPlain (slashed 4085) ∧
      ¬ (OutputBlocked (slashed 4085) place ∨ AssetsBlocked (slashed 4085) place ∨
        StylesheetBlocked (slashed 4085) place ∨ PageBlocked (slashed 4085) place) ∧
      ∃ fault, (place.answer ((ofResolved ⟨"1.1.8", "https://jode.sourceforge.net", ".html", "JODE"⟩).write
        (slashed 4085))).result = .error fault := by
  intro place
  have hassets : assetsName.utf8ByteSize = 6 := by decide
  have hstylesheet : stylesheetName.utf8ByteSize = 8 := by decide
  have hlong : Place.maxPathBytes < (stylesheetPath (slashed 4085)).utf8ByteSize := by
    rw [stylesheetPath, Path.utf8ByteSize_join, assetsPath, Path.utf8ByteSize_join, utf8ByteSize_slashed,
      hassets, hstylesheet, Place.maxPathBytes]
    omega
  refine ⟨by decide, isPlain_slashed (by decide), ?_, exists_error_of_long _ place hlong⟩
  unfold OutputBlocked AssetsBlocked StylesheetBlocked PageBlocked outputLocation
  rw [steps_slashed]
  rintro (⟨above, -, content, hview⟩ | ⟨content, hview⟩ | hview | hview)
  · cases above with
    | nil => cases hview
    | cons first rest => cases hview
  · cases hview
  · cases hview
  · cases hview

end DownloadSite.Site
