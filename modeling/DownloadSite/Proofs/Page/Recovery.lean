import Mathlib.Data.List.DropRight
import DownloadSite.Proofs.Page.Document
import DownloadSite.Site.Basic

/-!
# What the page tells about its settings

The page can be read back: two documents are written alike only for the same release, site name and links
(`inputs_eq_of_render_eq`). Of the settings of a site nothing is lost but the slashes at the end of its base.
-/

namespace DownloadSite

open Html

/-- The documents of two pages are told apart by their texts. -/
theorem DownloadPage.inputs_eq_of_render_eq {version name other another : String} {links others : Links}
    (h : render (document version (Chrome.site name) links) =
      render (document other (Chrome.site another) others)) :
    name = another ∧ version = other ∧
      ∀ target ∈ [fileList, linksPage, repository], links target = others target := by
  have hchars : chars (joined (document version (Chrome.site name) links)) =
      chars (joined (document other (Chrome.site another) others)) := by
    rw [chars_joined, chars_joined, ← toList_render, ← toList_render, h]
  have houtline : outline (joined (document version (Chrome.site name) links)) =
      outline (joined (document other (Chrome.site another) others)) := by
    rw [outline_joined, outline_joined, outline_document version name links other another others]
  exact inputs_eq_of_joined_eq version name links
    (eq_of_chars_eq houtline (isSeparated_joined_document version name links) hchars)

/-- A joined address depends on its base up to the slashes at the end. -/
theorem joinUrl_eq_iff (base other path : String) :
    joinUrl base path = joinUrl other path ↔
      base.toList.rdropWhile (· = '/') = other.toList.rdropWhile (· = '/') := by
  rw [joinUrl, joinUrl, String.ofList_inj, List.append_left_inj]
  rfl

namespace Site

/-- Two settings have the same page exactly if they agree but for the slashes at the end of their bases. -/
theorem page_ofResolved_eq_iff (settings others : Resolved) :
    (ofResolved settings).page = (ofResolved others).page ↔
      settings.version = others.version ∧ settings.siteName = others.siteName ∧
        settings.pageExtension = others.pageExtension ∧
        settings.siteBase.toList.rdropWhile (· = '/') = others.siteBase.toList.rdropWhile (· = '/') := by
  constructor
  · intro h
    obtain ⟨hname, hversion, hlinks⟩ := DownloadPage.inputs_eq_of_render_eq h
    have hbase : joinUrl settings.siteBase "project/filelist.php" =
        joinUrl others.siteBase "project/filelist.php" := hlinks DownloadPage.fileList (by simp)
    have hpage : "links" ++ settings.pageExtension = "links" ++ others.pageExtension :=
      hlinks DownloadPage.linksPage (by simp)
    exact ⟨hversion, hname, by simpa using hpage, (joinUrl_eq_iff _ _ _).1 hbase⟩
  · rintro ⟨hversion, hname, hextension, hbase⟩
    have hlinks : (ofResolved settings).hosting.links = (ofResolved others).hosting.links := by
      funext target
      cases target with
      | hosted path => exact (joinUrl_eq_iff _ _ path).2 hbase
      | sibling page => exact congrArg (page ++ ·) hextension
    have hchrome : (ofResolved settings).chrome = (ofResolved others).chrome :=
      congrArg Chrome.site hname
    have hrelease : (ofResolved settings).version = (ofResolved others).version := hversion
    rw [Site.page, Site.page, hlinks, hchrome, hrelease]

end Site

end DownloadSite
