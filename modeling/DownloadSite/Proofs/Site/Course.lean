import DownloadSite.Proofs.Files.Growth
import DownloadSite.Proofs.Files.Names
import DownloadSite.Site.Write

/-!
# How the writing of a site goes

Four steps are taken one after the other: the output directory, the directory of the stylesheet, the
stylesheet, and the page. `WriteCourse` has one case for each of them that may fail and one for a site that
is written, with the places between the steps; what a site leaves is read off these cases.
-/

namespace DownloadSite.Site

open FileAccess

def pagePath (output : String) : String := Path.join output pageName

def assetsPath (output : String) : String := Path.join output assetsName

def stylesheetPath (output : String) : String := Path.join (assetsPath output) stylesheetName

theorem isName_pageName : Path.IsName pageName := ⟨by decide, by decide⟩

theorem isName_assetsName : Path.IsName assetsName := ⟨by decide, by decide⟩

theorem isName_stylesheetName : Path.IsName stylesheetName := ⟨by decide, by decide⟩

theorem isProper_assetsName : FileTree.IsProper assetsName := ⟨by decide, by decide, by decide⟩

/-- What the steps lead to, and the place that they leave. -/
inductive WriteCourse (site : Site) (output : String) (place : Place) : Written String → Place → Prop where
  | noOutput {after : Place} {fault : FileFault}
      (houtput : place.Does (ensureDirectory output) (.error fault) after) :
      WriteCourse site output place { result := .error (.outputDirectory output fault) } after
  | noAssets {first after : Place} {fault : FileFault}
      (houtput : place.Does (ensureDirectory output) (.ok ()) first)
      (hassets : first.Does (ensureDirectory (assetsPath output)) (.error fault) after) :
      WriteCourse site output place { result := .error (.assetsDirectory (assetsPath output) fault) } after
  | noStylesheet {first second : Place} {fault : FileFault}
      (houtput : place.Does (ensureDirectory output) (.ok ()) first)
      (hassets : first.Does (ensureDirectory (assetsPath output)) (.ok ()) second)
      (hstylesheet : second.write (stylesheetPath output) (Text.encode Stylesheet.text) =
        (.error fault, second)) :
      WriteCourse site output place { result := .error (.asset stylesheetName fault) } second
  | noPage {first second third : Place} {fault : FileFault}
      (houtput : place.Does (ensureDirectory output) (.ok ()) first)
      (hassets : first.Does (ensureDirectory (assetsPath output)) (.ok ()) second)
      (hstylesheet : second.write (stylesheetPath output) (Text.encode Stylesheet.text) = (.ok (), third))
      (hpage : third.write (pagePath output) (Text.encode site.page) = (.error fault, third)) :
      WriteCourse site output place
        { result := .error (.page (pagePath output) fault), events := [stylesheetWritten stylesheetName] }
        third
  | complete {first second third after : Place}
      (houtput : place.Does (ensureDirectory output) (.ok ()) first)
      (hassets : first.Does (ensureDirectory (assetsPath output)) (.ok ()) second)
      (hstylesheet : second.write (stylesheetPath output) (Text.encode Stylesheet.text) = (.ok (), third))
      (hpage : third.write (pagePath output) (Text.encode site.page) = (.ok (), after)) :
      WriteCourse site output place
        { result := .ok (pagePath output),
          events := [stylesheetWritten stylesheetName, site.pageWritten (pagePath output)] }
        after

variable {site : Site} {output path : String} {place after : Place} {content : ByteArray}

/-- A fault of writing a file leaves the place as it is. -/
theorem eq_of_does_write {fault : FileFault}
    (h : place.Does (FileAccess.write path content) (.error fault) after) :
    place.write path content = (.error fault, place) := by
  rcases place.write_cases path content with ⟨other, hwrite⟩ | ⟨next, hwrite⟩
  · have hfault := h.answer_eq.symm.trans (congrArg Prod.fst hwrite)
    rw [hwrite, hfault]
  · cases h.answer_eq.symm.trans (congrArg Prod.fst hwrite)

theorem write_cases_of_does_writeStylesheet {directory : String} {written : Written Unit}
    (h : place.Does (writeStylesheet directory) written after) :
    (∃ fault, place.Does (ensureDirectory directory) (.error fault) after ∧
      written = { result := .error (.assetsDirectory directory fault) }) ∨
    ∃ second, place.Does (ensureDirectory directory) (.ok ()) second ∧
      ((∃ fault, second.write (Path.join directory stylesheetName) (Text.encode Stylesheet.text) =
          (.error fault, second) ∧ after = second ∧ written = { result := .error (.asset stylesheetName fault) }) ∨
        (second.write (Path.join directory stylesheetName) (Text.encode Stylesheet.text) = (.ok (), after) ∧
          written = { result := .ok (), events := [stylesheetWritten stylesheetName] })) := by
  rw [writeStylesheet] at h
  obtain ⟨result, second, hassets, h⟩ := h.exists_of_bind
  cases result with
  | error fault =>
    obtain ⟨hwritten, rfl⟩ := h.eq_of_pure
    exact .inl ⟨fault, hassets, hwritten⟩
  | ok _ =>
    refine .inr ⟨second, hassets, ?_⟩
    obtain ⟨result, third, hstylesheet, h⟩ := h.exists_of_bind
    cases result with
    | error fault =>
      obtain ⟨hwritten, rfl⟩ := h.eq_of_pure
      have hwrite := eq_of_does_write hstylesheet
      obtain ⟨-, rfl⟩ := Prod.mk.inj (hstylesheet.symm.trans hwrite)
      exact .inl ⟨fault, hwrite, rfl, hwritten⟩
    | ok _ =>
      obtain ⟨hwritten, rfl⟩ := h.eq_of_pure
      exact .inr ⟨hstylesheet, hwritten⟩

theorem course_of_does_write {written : Written String} (h : place.Does (site.write output) written after) :
    WriteCourse site output place written after := by
  rw [Site.write] at h
  obtain ⟨result, first, houtput, h⟩ := h.exists_of_bind
  cases result with
  | error fault =>
    obtain ⟨rfl, rfl⟩ := h.eq_of_pure
    exact .noOutput houtput
  | ok _ =>
    obtain ⟨assets, second, hwritten, h⟩ := h.exists_of_bind
    rcases write_cases_of_does_writeStylesheet hwritten with
      ⟨fault, hfault, rfl⟩ | ⟨middle, hassets, ⟨fault, hfault, rfl, rfl⟩ | ⟨hstylesheet, rfl⟩⟩
    · obtain ⟨rfl, rfl⟩ := h.eq_of_pure
      exact .noAssets houtput hfault
    · obtain ⟨rfl, rfl⟩ := h.eq_of_pure
      exact .noStylesheet houtput hassets hfault
    · obtain ⟨page, third, hpage, h⟩ := h.exists_of_bind
      obtain ⟨rfl, rfl⟩ := h.eq_of_pure
      rw [writePage] at hpage
      obtain ⟨result, fourth, hpage, h⟩ := hpage.exists_of_bind
      cases result with
      | error fault =>
        obtain ⟨rfl, rfl⟩ := h.eq_of_pure
        have hwrite := eq_of_does_write hpage
        obtain ⟨-, rfl⟩ := Prod.mk.inj (hpage.symm.trans hwrite)
        exact .noPage houtput hassets hstylesheet hwrite
      | ok _ =>
        obtain ⟨rfl, rfl⟩ := h.eq_of_pure
        exact .complete houtput hassets hstylesheet hpage

/-- A site that is written has its page in the output directory. -/
theorem WriteCourse.read_page {path : String} {events : List Log.Event}
    (h : WriteCourse site output place { result := .ok path, events } after) :
    after.read (Path.join output pageName) = .ok (Text.encode site.page) := by
  cases h with
  | complete _ _ _ hpage => exact Place.read_of_write hpage

end DownloadSite.Site
