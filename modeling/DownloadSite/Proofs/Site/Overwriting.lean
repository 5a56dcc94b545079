import DownloadSite.Proofs.Files.Overwriting
import DownloadSite.Proofs.Site.Footprint

/-!
# Writing sites to one output

A site that is written to an output replaces the one that was written there before without a trace. The steps
before the page are the same for every site (`Prepares`) and change nothing when they are taken again, so what
writing a site leaves depends on the place before the first of them and on the last one only (`write_write`).
-/

namespace DownloadSite.Site

open FileTree FileAccess

/-- What writing a site leads to if all its steps succeed. -/
def completed (site : Site) (output : String) : Written String where
  result := .ok (pagePath output)
  events := [stylesheetWritten stylesheetName, site.pageWritten (pagePath output)]

/-- The steps before the page lead from the first place to the second. -/
def Prepares (output : String) (place ready : Place) : Prop :=
  ∃ first second, place.Does (ensureDirectory output) (.ok ()) first ∧
    first.Does (ensureDirectory (assetsPath output)) (.ok ()) second ∧
    second.write (stylesheetPath output) (Text.encode Stylesheet.text) = (.ok (), ready)

/-- The second place is what some page leaves behind those steps at the first. -/
def Reaches (output : String) (place after : Place) : Prop :=
  ∃ ready content, Prepares output place ready ∧ ready.write (pagePath output) content = (.ok (), after)

/-- Every site is written at both places, and to the same effect. -/
def WritesAlike (output : String) (place start : Place) : Prop :=
  ∀ site : Site, ∃ next, Reaches output place next ∧
    place.Does (site.write output) (site.completed output) next ∧
    start.Does (site.write output) (site.completed output) next

variable {site : Site} {output path : String} {place ready start after : Place} {content : ByteArray}

theorem Prepares.does_write (h : Prepares output place ready)
    (hpage : ready.write (pagePath output) (Text.encode site.page) = (.ok (), after)) :
    place.Does (site.write output) (site.completed output) after := by
  obtain ⟨first, second, houtput, hassets, hstylesheet⟩ := h
  have hstylesheet : second.Does (FileAccess.write (stylesheetPath output) (Text.encode Stylesheet.text)) (.ok ())
      ready := hstylesheet
  have hpage : ready.Does (FileAccess.write (pagePath output) (Text.encode site.page)) (.ok ()) after := hpage
  have hassets : first.Does (writeStylesheet (assetsPath output))
      { result := .ok (), events := [stylesheetWritten stylesheetName] } ready :=
    hassets.bind (hstylesheet.bind (Place.Does.pure ready _))
  have hpage : ready.Does (site.writePage output)
      { result := .ok (pagePath output), events := [site.pageWritten (pagePath output)] } after :=
    hpage.bind (Place.Does.pure after _)
  exact houtput.bind (hassets.bind (hpage.bind (Place.Does.pure after _)))

theorem reaches_of_write (h : (place.answer (site.write output)).result = .ok path) :
    path = pagePath output ∧ Reaches output place (place.after (site.write output)) := by
  have hcourse := course_of_does_write (Place.Does.of_answer place (site.write output))
  generalize place.answer (site.write output) = written at hcourse h
  generalize place.after (site.write output) = after at hcourse ⊢
  cases hcourse with
  | complete houtput hassets hstylesheet hpage =>
    exact ⟨(Except.ok.inj h).symm, _, _, ⟨_, _, houtput, hassets, hstylesheet⟩, hpage⟩
  | _ => cases h

/-- Behind a page the steps before it find everything as they leave it. -/
theorem Prepares.again (h : Prepares output place ready)
    (hpage : ready.write (pagePath output) content = (.ok (), after)) : Prepares output after after := by
  obtain ⟨first, second, houtput, hassets, hstylesheet⟩ := h
  obtain ⟨_, _, hstylesheet⟩ := Place.exists_stores_of_write hstylesheet
  obtain ⟨_, _, hpage⟩ := Place.exists_stores_of_write hpage
  obtain ⟨directory, -, hstylesheet, hpage⟩ := exists_directory_of_stores hstylesheet hpage
  have hgrows := grows_of_ensures hassets
  have hkeeps : Keeps second.root after.root := hstylesheet.keeps.trans hpage.keeps
  have hcurrent : after.current = second.current := hpage.current_eq.trans hstylesheet.current_eq
  have hview : after.root.view (directory ++ [assetsName] ++ [stylesheetName]) =
      some (.file (Text.encode Stylesheet.text)) := by
    rw [hpage.view_other _ (by simp), hstylesheet.view_eq]
  exact ⟨after, after,
    Place.does_ensureDirectory_again houtput (hgrows.root.keeps.trans hkeeps) (hcurrent.trans hgrows.current_eq),
    Place.does_ensureDirectory_again hassets hkeeps hcurrent,
    hstylesheet.write_eq_self hkeeps hcurrent hview⟩

theorem Reaches.writesAlike (h : Reaches output place after) : WritesAlike output place after := by
  intro site
  obtain ⟨ready, content, hready, hpage⟩ := h
  obtain ⟨location, hwrite⟩ := Place.exists_put_of_write hpage
  obtain ⟨hfirst, hagain⟩ := hwrite (Text.encode site.page)
  exact ⟨_, ⟨ready, _, hready, hfirst⟩, hready.does_write hfirst, (hready.again hpage).does_write hagain⟩

theorem Reaches.writesAlike_self (h : Reaches output place after) : WritesAlike output place place := by
  intro site
  obtain ⟨next, hnext, hplace, -⟩ := h.writesAlike site
  exact ⟨next, hnext, hplace, hplace⟩

/-- Of several sites that are written one after the other the last one is left. -/
theorem WritesAlike.does_mapM (h : WritesAlike output place start) (sites : List Site) (last : Site) :
    start.Does ((sites ++ [last]).mapM fun site => site.write output)
      ((sites ++ [last]).map fun site => site.completed output) (place.after (last.write output)) := by
  induction sites generalizing start with
  | nil =>
    obtain ⟨next, -, hplace, hstart⟩ := h last
    rw [List.nil_append, List.mapM_cons, List.mapM_nil, hplace.after_eq]
    exact hstart.bind (Place.Does.pure next _)
  | cons site rest ih =>
    obtain ⟨next, hnext, -, hstart⟩ := h site
    rw [List.cons_append, List.mapM_cons]
    exact hstart.bind ((ih hnext.writesAlike).bind (Place.Does.pure _ _))

/-- Where one site is written, every other one is written after it and leaves what it would have left alone. So
the same site once more changes nothing, and of several sites in turn the last one is left. -/
theorem write_write (site next : Site) (output : String) (place : Place) {path : String}
    (h : (place.answer (site.write output)).result = .ok path) :
    let after := place.after (site.write output)
    ((after.answer (next.write output)).result = .ok path ∧
        after.after (next.write output) = place.after (next.write output)) ∧
      after.after (site.write output) = after ∧
      ∀ (sites : List Site) (last : Site),
        place.Does ((sites ++ [last]).mapM fun site => site.write output)
          ((sites ++ [last]).map fun site => site.completed output) (place.after (last.write output)) := by
  intro after
  obtain ⟨rfl, hreaches⟩ := reaches_of_write h
  obtain ⟨nextPlace, -, hplace, hafter⟩ := hreaches.writesAlike next
  obtain ⟨samePlace, -, hbefore, hagain⟩ := hreaches.writesAlike site
  refine ⟨⟨congrArg Written.result hafter.answer_eq, hafter.after_eq.trans hplace.after_eq.symm⟩,
    hagain.after_eq.trans hbefore.after_eq.symm, hreaches.writesAlike_self.does_mapM⟩

/-- A directory is created to be left again, and there is a page already. -/
theorem write_write_throughNewDirectory :
    let place : Place :=
      { root := .directory [("home", .directory [("download.html", .file (Text.encode "old"))])]
        current := ["home"] }
    let site := ofResolved ⟨"1.1.8", "https://jode.sourceforge.net", ".html", "JODE"⟩
    let next := ofResolved ⟨"2.0", "", "", ""⟩
    (place.answer (site.write "new/.././/")).result = .ok "new/.././/download.html" ∧
      ((place.after (site.write "new/.././/")).answer (next.write "new/.././/")).result =
        .ok "new/.././/download.html" ∧
      (place.after (site.write "new/.././/")).after (next.write "new/.././/") =
        place.after (next.write "new/.././/") := by
  intro place site next
  have h : (place.answer (site.write "new/.././/")).result = .ok "new/.././/download.html" := by decide
  exact ⟨h, (write_write site next _ place h).1⟩

end DownloadSite.Site
