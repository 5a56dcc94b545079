import DownloadSite.Proofs.Page.Document

/-!
# No input changes the tags of the page

The page has the same tags for every release, every site name and all links: the inputs stand in texts and in
the values of attributes, where they are escaped, and the frame around these is always the same.
-/

namespace DownloadSite.DownloadPage

open Html

theorem tagSequence_document (version name : String) (links : Links) :
    tagSequence (render (document version (Chrome.site name) links)) = pageTags := by
  rw [tagSequence_render (isPlain_document version name links), markupTags_document]

/-- Two pages have the same tags, with two headings and one list of two items that begin with a link, and
they are the same frame around escaped texts and values, none of which has a bracket or a double quote. -/
theorem tagSequence_eq_of_documents (version other name another : String) (links others : Links) :
    let first := document version (Chrome.site name) links
    let second := document other (Chrome.site another) others
    tagSequence (render first) = tagSequence (render second) ∧
      (tagSequence (render first)).count "<h1>" = 2 ∧
      (tagSequence (render first)).count "<ul>" = 1 ∧
      (tagSequence (render first)).count "<li>" = 2 ∧
      (∃ before after, render first = before ++ Archive.listText (Archive.writtenLink version) ++ after) ∧
      (∃ frame : Frame,
        render first = frame.fill ((slots first).map written) ∧
        render second = frame.fill ((slots second).map written) ∧
        (slots first).length = frame.behind.length ∧ (slots second).length = frame.behind.length) ∧
      ∀ content, ∀ c ∈ ['<', '>', '"'], c ∉ (written content).toList := by
  intro first second
  have hfirst : tagSequence (render first) = pageTags := tagSequence_document version name links
  have hsecond : tagSequence (render second) = pageTags := tagSequence_document other another others
  have hframe : frame second = frame first := by
    rw [← frame_outline first, outline_document version name links other another others, frame_outline]
  rw [hfirst, hsecond]
  refine ⟨rfl, by decide, by decide, by decide, exists_render_document_eq version _ links,
    ⟨frame first, render_eq_fill first, ?_, (length_behind_frame first).symm, ?_⟩, ?_⟩
  · rw [← hframe]
    exact render_eq_fill second
  · rw [← hframe, length_behind_frame]
  · intro content c hc
    rw [toList_written]
    exact not_mem_escape hc _

end DownloadSite.DownloadPage
