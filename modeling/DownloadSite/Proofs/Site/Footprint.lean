import DownloadSite.Proofs.Files.Names
import DownloadSite.Proofs.Page.Document
import DownloadSite.Proofs.Site.Course

/-!
# What writing a site leaves

A site that is written leaves its page and its stylesheet where the page looks for it, and nothing else that
is new but directories. A site that is not written has changed no file but the stylesheet, and that one
either not at all or completely. Neither takes anything away (`write_leaves`).
-/

namespace DownloadSite

open FileTree Html

/-! ### Where a joined path leads -/

theorem FileTree.eq_of_walk_single {tree : FileTree} {location last : Location} {name : String}
    (hproper : IsProper name) (h : tree.walk location [name] = .ok last) : last = location ++ [name] := by
  obtain ⟨-, next, hstep, hrest⟩ := walk_cons_eq_ok_iff.1 h
  cases hrest
  cases hstep with
  | stay => exact absurd rfl hproper.ne_dot
  | up => exact absurd rfl hproper.ne_dots
  | down name proper present => rfl

namespace Place

variable {place after : Place} {path name last : String} {parent : Location} {content : ByteArray}

/-- The names of the first path lead to the directory that the second one belongs to. -/
theorem Target.of_join (h : place.Target (Path.join path name) parent last) (hname : Path.IsName name) :
    last = name ∧ place.root.walk (place.start path) (Path.steps path) = .ok parent := by
  obtain ⟨above, hsteps, hwalk⟩ := h.leads
  rw [Path.steps_join path hname] at hsteps
  obtain ⟨rfl, hlast⟩ := List.append_inj' hsteps rfl
  rw [start, Path.isAbsolute_join path hname] at hwalk
  exact ⟨(List.singleton_inj.1 hlast).symm, hwalk⟩

theorem read_of_locate {location : Location} (hlocate : place.locate path = .ok location)
    (hview : place.root.view location = some (.file content)) : place.read path = .ok content := by
  have hget := get?_eq_some_file hview
  rw [read, hlocate]
  simp only [hget]

end Place

/-! ### The link to the stylesheet -/

theorem Layout.stylesheetLink_isInfix_document {address : String} {chrome : Chrome}
    (h : address ∈ chrome.stylesheets) (title : String) (content : Markup) :
    stylesheetLink address <:+: document title chrome content := by
  obtain ⟨before, after, hsplit⟩ := List.append_of_mem h
  have hlinks : stylesheetLink address <:+: chrome.stylesheets.flatMap stylesheetLink := by
    rw [hsplit, List.flatMap_append, List.flatMap_cons]
    exact ⟨before.flatMap stylesheetLink, after.flatMap stylesheetLink, by rw [List.append_assoc]⟩
  have hhead : chrome.stylesheets.flatMap stylesheetLink <:+: head title chrome :=
    (List.suffix_append _ _).isInfix.trans (infix_element "head" [] _)
  have hdocument : head title chrome <:+: document title chrome content :=
    ((List.prefix_append _ _).isInfix.trans (infix_element "html" _ _)).trans
      (List.suffix_append _ _).isInfix
  exact hlinks.trans (hhead.trans hdocument)

namespace Site

def LinksTo (site : Site) (address : String) : Prop :=
  ∃ front back, site.page = front ++ "<link rel=\"stylesheet\" href=\"" ++ address ++ "\">" ++ back

theorem linksTo_stylesheet (settings : Resolved) : (ofResolved settings).LinksTo Chrome.stylesheet := by
  have hmem : Chrome.stylesheet ∈ (ofResolved settings).chrome.stylesheets := List.mem_singleton_self _
  obtain ⟨front, back, hdocument⟩ := Layout.stylesheetLink_isInfix_document hmem DownloadPage.title
    ((DownloadPage.template settings.version).fill (ofResolved settings).hosting.links)
  refine ⟨render front, render back, ?_⟩
  have hlink : chars (Layout.stylesheetLink Chrome.stylesheet) =
      ("<link rel=\"stylesheet\" href=\"" ++ Chrome.stylesheet ++ "\">").toList := by decide
  apply String.toList_inj.1
  rw [page, DownloadPage.document, toList_render]
  show chars (Layout.document DownloadPage.title (ofResolved settings).chrome
    ((DownloadPage.template settings.version).fill (ofResolved settings).hosting.links)) = _
  rw [← hdocument, chars_append, chars_append, hlink]
  simp

/-- What a site leaves that is written, with the directory of its page. -/
structure Finished (site : Site) (output : String) (place after : Place) (directory : Location) : Prop where
  page_leads : after.locate (pagePath output) = .ok (directory ++ [pageName])
  page_read : after.read (pagePath output) = .ok (Text.encode site.page)
  stylesheet_leads : after.locate (stylesheetPath output) = .ok (directory ++ [assetsName, stylesheetName])
  stylesheet_read : after.read (stylesheetPath output) = .ok (Text.encode Stylesheet.text)
  /-- The address in the page, followed from the page's directory, is that of the stylesheet. -/
  linked : ∃ address, site.LinksTo address ∧
    after.root.walk directory (Path.steps address) = .ok (directory ++ [assetsName, stylesheetName])
  keeps : Keeps place.root after.root
  elsewhere : ∀ location, location ≠ directory ++ [pageName] →
    location ≠ directory ++ [assetsName, stylesheetName] →
      after.root.view location = place.root.view location ∨
        (place.root.view location = none ∧ after.root.view location = some .directory)

/-- What a site leaves that is not written. -/
structure Unfinished (output : String) (place after : Place) : Prop where
  keeps : Keeps place.root after.root
  elsewhere : ∀ location, after.root.view location = place.root.view location ∨
    (place.root.view location = none ∧ after.root.view location = some .directory) ∨
    (after.locate (stylesheetPath output) = .ok location ∧
      after.root.view location = some (.file (Text.encode Stylesheet.text)))

variable {output : String} {place first second third after : Place}

theorem Unfinished.of_grows (h : place.Grows after) : Unfinished output place after where
  keeps := h.root.keeps
  elsewhere location := (h.root location).imp_right .inl

theorem Unfinished.of_stores (h : place.Grows second) {parent : Location} {name : String}
    (hstylesheet : second.Stores (stylesheetPath output) (Text.encode Stylesheet.text) third parent name) :
    Unfinished output place third where
  keeps := h.root.keeps.trans hstylesheet.keeps
  elsewhere location := by
    by_cases hlocation : location = parent ++ [name]
    · rw [hlocation]
      exact .inr (.inr ⟨hstylesheet.locate_eq_ok, hstylesheet.view_eq⟩)
    · rw [hstylesheet.view_other location hlocation]
      exact (h.root location).imp_right .inl

/-- The stylesheet and the page are stored below the directory that the output leads to. -/
theorem exists_directory_of_stores {parent pageParent : Location} {name page : String}
    {content pageContent : ByteArray}
    (hstylesheet : second.Stores (stylesheetPath output) content third parent name)
    (hpage : third.Stores (pagePath output) pageContent after pageParent page) :
    ∃ directory, second.root.walk directory [assetsName] = .ok (directory ++ [assetsName]) ∧
      second.Stores (stylesheetPath output) content third (directory ++ [assetsName]) stylesheetName ∧
      third.Stores (pagePath output) pageContent after directory pageName := by
  obtain ⟨rfl, hassets⟩ := hstylesheet.target.of_join isName_stylesheetName
  obtain ⟨rfl, hdirectory⟩ := hpage.target.of_join isName_pageName
  rw [assetsPath, Path.steps_join output isName_assetsName, walk_append, Place.start,
    Path.isAbsolute_join output isName_assetsName] at hassets
  obtain ⟨directory, houtput, hlast⟩ := exists_of_bind_eq_ok hassets
  obtain rfl := eq_of_walk_single isProper_assetsName hlast
  have hsame : third.root.walk (third.start output) (Path.steps output) = .ok directory := by
    rw [Place.start, hstylesheet.current_eq]
    exact hstylesheet.keeps.walk_eq_ok houtput
  obtain rfl := Except.ok.inj (hdirectory.symm.trans hsame)
  exact ⟨pageParent, hlast, hstylesheet, hpage⟩

theorem exists_finished (settings : Resolved) (h : place.Grows second)
    (hstylesheet : second.write (stylesheetPath output) (Text.encode Stylesheet.text) = (.ok (), third))
    (hpage : third.write (pagePath output) (Text.encode (ofResolved settings).page) = (.ok (), after)) :
    ∃ directory, Finished (ofResolved settings) output place after directory := by
  obtain ⟨_, _, hstylesheet⟩ := Place.exists_stores_of_write hstylesheet
  obtain ⟨_, _, hpage⟩ := Place.exists_stores_of_write hpage
  obtain ⟨directory, hassets, hstylesheet, hpage⟩ := exists_directory_of_stores hstylesheet hpage
  have hkeeps : Keeps second.root after.root := hstylesheet.keeps.trans hpage.keeps
  have hlocation : directory ++ [assetsName] ++ [stylesheetName] = directory ++ [assetsName, stylesheetName] :=
    List.append_assoc _ _ _
  have hview : after.root.view (directory ++ [assetsName] ++ [stylesheetName]) =
      some (.file (Text.encode Stylesheet.text)) := by
    rw [hpage.view_other _ (by simp), hstylesheet.view_eq]
  have hpresent : (after.root.view (directory ++ [assetsName] ++ [stylesheetName])).isSome := by
    rw [hview]
    rfl
  have hleads : after.locate (stylesheetPath output) = .ok (directory ++ [assetsName] ++ [stylesheetName]) :=
    hstylesheet.target.locate_eq_ok hstylesheet.slash_eq hkeeps
      (hpage.current_eq.trans hstylesheet.current_eq) hpresent
  refine ⟨directory, hpage.locate_eq_ok, Place.read_of_locate hpage.locate_eq_ok hpage.view_eq,
    hlocation ▸ hleads, Place.read_of_locate hleads hview, ⟨_, linksTo_stylesheet settings, ?_⟩,
    h.root.keeps.trans hkeeps, ?_⟩
  · have hsteps : Path.steps Chrome.stylesheet = [assetsName] ++ [stylesheetName] := by decide
    have hdirectory := hkeeps.isDirectoryAt hstylesheet.target.isDirectory
    rw [hsteps, walk_append, hkeeps.walk_eq_ok hassets, ← hlocation]
    exact walk_cons_eq_ok_iff.2 ⟨hdirectory, _, .down _ hstylesheet.target.proper hpresent, rfl⟩
  · intro location hnotPage hnotStylesheet
    rw [hpage.view_other location hnotPage, hstylesheet.view_other location (by rwa [hlocation])]
    exact h.root location

/-- What a site leaves when it is written, and what it leaves when it is not. -/
theorem write_leaves (settings : Resolved) (output : String) (place : Place) :
    match (place.answer ((ofResolved settings).write output)).result with
    | .ok path => path = pagePath output ∧ ∃ directory,
        Finished (ofResolved settings) output place (place.after ((ofResolved settings).write output)) directory
    | .error _ => Unfinished output place (place.after ((ofResolved settings).write output)) := by
  have hcourse := course_of_does_write (Place.Does.of_answer place ((ofResolved settings).write output))
  generalize place.answer ((ofResolved settings).write output) = written at hcourse ⊢
  generalize place.after ((ofResolved settings).write output) = after at hcourse ⊢
  cases hcourse with
  | noOutput hfault => exact .of_grows (grows_of_ensures hfault)
  | noAssets houtput hfault => exact .of_grows ((grows_of_ensures houtput).trans (grows_of_ensures hfault))
  | noStylesheet houtput hassets hfault =>
    exact .of_grows ((grows_of_ensures houtput).trans (grows_of_ensures hassets))
  | noPage houtput hassets hstylesheet hfault =>
    obtain ⟨parent, name, hstylesheet⟩ := Place.exists_stores_of_write hstylesheet
    exact .of_stores ((grows_of_ensures houtput).trans (grows_of_ensures hassets)) hstylesheet
  | complete houtput hassets hstylesheet hpage =>
    exact ⟨rfl, exists_finished settings ((grows_of_ensures houtput).trans (grows_of_ensures hassets))
      hstylesheet hpage⟩

end Site

end DownloadSite
