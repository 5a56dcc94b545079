import Mathlib.Data.List.Infix
import DownloadSite.Page.Download
import DownloadSite.Proofs.Html.Outline
import DownloadSite.Proofs.Html.Tags

/-!
# The document of the download page

What the pieces of every page have in common whatever it is made of: the outline (`outline_document`), the
tags (`markupTags_document`), and where the inputs stand (`inputs_eq_of_joined_eq`).
-/

namespace DownloadSite

open Html

def Html.linkText (address label : String) : String := "<a href=\"" ++ address ++ "\">" ++ label ++ "</a>"

theorem Html.infix_element (name : String) (attributes : List (String × String)) (content : Markup) :
    content <:+: element name attributes content := ⟨[.openTag name attributes], [.closeTag name], rfl⟩

/-! ### Raw markup -/

theorem notMem_toList_ofList {c : Char} {cs : List Char} (h : c ∉ cs) :
    c ∉ (String.ofList cs).toList := by
  rwa [String.toList_ofList]

theorem Archive.notMem_note {platform : Platform} (h : platform ∈ platforms) :
    '<' ∉ platform.note.toList := by
  simp only [platforms, List.mem_cons, List.not_mem_nil, or_false] at h
  rcases h with rfl | rfl
  · rw [String.toList_append, List.mem_append, not_or]
    exact ⟨notMem_toList_ofList (by decide), notMem_toList_ofList (by decide)⟩
  · exact notMem_toList_ofList (by decide)

theorem DownloadPage.notMem_bootstrapCommand : '<' ∉ bootstrapCommand.toList :=
  notMem_toList_ofList (by decide)

/-! ### The list of archives -/

namespace Archive

section

attribute [local simp] item link anchor element text raw markupTags Piece.tags Piece.isPlain isPlainName
  emptyAttribute

theorem isPlain_list (version : String) : (list version).all Piece.isPlain = true := by
  have hnote : ∀ platform ∈ platforms, closesTags platform.note.toList = true :=
    fun _ h => closesTags_of_notMem (notMem_note h)
  simpa [list] using hnote

theorem markupTags_item (version : String) {platform : Platform} (h : platform ∈ platforms) :
    markupTags (item version platform) = ["<li>", "<a href=\"\">", "</a>", "</li>"] := by
  simp [tagSequence_of_notMem (notMem_note h)]

theorem markupTags_list (version : String) :
    markupTags (list version) = ["<ul>", "<li>", "<a href=\"\">", "</a>", "</li>",
      "<li>", "<a href=\"\">", "</a>", "</li>", "</ul>"] := by
  have hitems : markupTags (platforms.flatMap (item version)) =
      platforms.flatMap fun _ => ["<li>", "<a href=\"\">", "</a>", "</li>"] := by
    rw [markupTags, List.flatMap_assoc]
    exact List.flatMap_congr fun _ h => markupTags_item version h
  have hlist : markupTags (list version) =
      "<ul>" :: markupTags (platforms.flatMap (item version)) ++ ["</ul>"] := by
    simp [list, -item]
  rw [hlist, hitems]
  rfl

end

/-- An item of the list in its written form: a link, and the note about the platform. -/
def itemText (link : String) (platform : Platform) : String := "<li>" ++ link ++ platform.note ++ "</li>"

def listText (links : Platform → String) : String :=
  "<ul>" ++ String.join (platforms.map fun platform => itemText (links platform) platform) ++ "</ul>"

def writtenLink (version : String) (platform : Platform) : String :=
  linkText (written (url version platform.suffix)) (written (fileName version platform.suffix))

theorem chars_item (version : String) (platform : Platform) :
    chars (item version platform) = (itemText (writtenLink version platform) platform).toList := by
  simp [item, link, anchor, element, text, raw, Piece.chars, attributeChars, itemText, linkText, writtenLink]

theorem render_list (version : String) : render (list version) = listText (writtenLink version) := by
  rw [← String.toList_inj]
  have hitems : chars (platforms.flatMap (item version)) =
      platforms.flatMap fun platform => (itemText (writtenLink version platform) platform).toList := by
    rw [chars, List.flatMap_assoc]
    exact List.flatMap_congr fun platform _ => chars_item version platform
  simp [list, listText, element, Piece.chars, hitems, List.flatMap_map]

end Archive

/-! ### The whole document -/

namespace DownloadPage

def pageTags : List String :=
  ["<!DOCTYPE html>", "<html lang=\"\">",
   "<head>", "<meta charset=\"\">", "<meta name=\"\" content=\"\">", "<title>", "</title>",
   "<link rel=\"\" href=\"\">", "</head>",
   "<body>",
   "<header class=\"\">", "<div class=\"\">", "</div>", "<div class=\"\">", "</div>",
   "<nav class=\"\">", "<span class=\"\">", "</span>", "</nav>", "</header>",
   "<div class=\"\">",
   "<h1>", "</h1>",
   "<p>", "<a href=\"\">", "</a>", "<i>", "</i>", "</p>",
   "<p>", "<i>", "</i>", "<a href=\"\">", "</a>", "</p>",
   "<p>", "<a href=\"\">", "</a>", "</p>",
   "<ul>", "<li>", "<a href=\"\">", "</a>", "</li>", "<li>", "<a href=\"\">", "</a>", "</li>", "</ul>",
   "<h1>", "</h1>",
   "<p>", "<a href=\"\">", "</a>", "<code>", "</code>", "<i>", "</i>", "</p>",
   "<pre>", "</pre>", "<p>", "</p>",
   "</div>",
   "<footer class=\"\">", "<p>", "<a href=\"\" target=\"\">", "</a>", "</p>", "</footer>",
   "</body>", "</html>"]

section

variable (version name : String) (links : Links)

attribute [local simp] document Layout.document Layout.head Layout.body Layout.documentTitle
  Layout.stylesheetLink Chrome.site template sources requirements archives checkout Template.element
  Template.fill Part.fill element classed anchor void text raw

set_option maxRecDepth 2000

theorem isPlain_document : (document version (Chrome.site name) links).all Piece.isPlain = true := by
  have hlist := Archive.isPlain_list version
  have hbootstrap := closesTags_of_notMem notMem_bootstrapCommand
  rw [List.all_eq_true] at hlist
  simpa [Piece.isPlain, isPlainName, closesTags, hbootstrap, -String.reduceAppend] using hlist

theorem markupTags_document : markupTags (document version (Chrome.site name) links) = pageTags := by
  have hlist := Archive.markupTags_list version
  have hbootstrap := tagSequence_of_notMem notMem_bootstrapCommand
  have hdoctype : tagSequence "<!DOCTYPE html>" = ["<!DOCTYPE html>"] := by decide +kernel
  rw [markupTags] at hlist
  simp [markupTags, Piece.tags, emptyAttribute, hlist, hbootstrap, hdoctype, pageTags]

attribute [local simp] Archive.list Archive.item Archive.link Archive.platforms anchor

/-- Pages differ only in their texts and in the values of their attributes. -/
theorem outline_document (other another : String) (others : Links) :
    outline (document version (Chrome.site name) links) =
      outline (document other (Chrome.site another) others) := by
  simp [outline, Piece.outline, -String.reduceAppend]

/-- A tag follows every text once the texts beside one another are joined. -/
theorem isSeparated_joined_document :
    isSeparated (joined (document version (Chrome.site name) links)) = true := by
  simp [joined, join, isSeparated, beginsWithTag, -String.reduceAppend]

/-- The inputs stand in pages by themselves or beside a fixed text. -/
theorem inputs_eq_of_joined_eq {other another : String} {others : Links}
    (h : joined (document version (Chrome.site name) links) =
      joined (document other (Chrome.site another) others)) :
    name = another ∧ version = other ∧
      ∀ target ∈ [fileList, linksPage, repository], links target = others target := by
  obtain ⟨hname, hfiles, hpage, hversion, hrepository, -⟩ :
      name = another ∧ links fileList = others fileList ∧ links linksPage = others linksPage ∧
        version = other ∧ links repository = others repository ∧ name = another := by
    simpa [joined, join, Archive.url, Archive.fileName, -String.reduceAppend] using h
  exact ⟨hname, hversion, by simp [hfiles, hpage, hrepository]⟩

end

theorem list_isInfix_document (version : String) (chrome : Chrome) (links : Links) :
    Archive.list version <:+: document version chrome links := by
  have hfill : Archive.list version <:+: (template version).fill links := by
    have hpart : archives version <:+: template version := List.infix_append _ _ _
    have harchives : Archive.list version <:+: (archives version).fill links := by
      simp only [archives, Template.fill, List.flatMap_cons, List.flatMap_nil, Part.fill, List.append_nil]
      exact (List.suffix_append _ _).isInfix
    exact harchives.trans (List.IsInfix.flatMap hpart _)
  have hbody : (template version).fill links <:+: Layout.body title chrome ((template version).fill links) :=
    (infix_element "div" _ _).trans ((List.infix_append _ _ _).trans (infix_element "body" _ _))
  have hhtml : Layout.body title chrome ((template version).fill links) <:+: document version chrome links :=
    ((List.suffix_append _ _).isInfix.trans (infix_element "html" _ _)).trans (List.suffix_append _ _).isInfix
  exact hfill.trans (hbody.trans hhtml)

/-- The list of the archives is a part of the page. -/
theorem exists_render_document_eq (version : String) (chrome : Chrome) (links : Links) :
    ∃ before after, render (document version chrome links) =
      before ++ Archive.listText (Archive.writtenLink version) ++ after := by
  obtain ⟨before, after, h⟩ := list_isInfix_document version chrome links
  refine ⟨render before, render after, ?_⟩
  rw [← h, ← Archive.render_list, ← String.toList_inj]
  simp

end DownloadPage

end DownloadSite
