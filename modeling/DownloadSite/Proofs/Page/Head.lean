import DownloadSite.Page.Layout
import DownloadSite.Proofs.Html.Reading

/-!
# The head of a document

The title and the stylesheets of a document can be read from its text whatever its chrome is. Both are
escaped in the head and are read before its end (`readHead?_opening`); the header, the content and the footer
may hold any raw markup, but they stand behind that end.
-/

namespace DownloadSite

open Html

structure DocumentHead where
  title : String
  stylesheets : List String
  deriving DecidableEq, Repr

/-! ### Reading a head -/

def Html.titleOf? : Markup → Option String
  | [] => none
  | .openTag "title" _ :: .text title :: _ => some title
  | _ :: rest => titleOf? rest

def Html.Piece.stylesheet? : Piece → Option String
  | .openTag "link" attributes =>
    if attributes.lookup "rel" = some "stylesheet" then attributes.lookup "href" else none
  | _ => none

/-- Reads the head of a document, and gives the text behind it. -/
def readHead? (text : String) : Option (DocumentHead × String) :=
  (readThrough? "head" text.toList).bind fun (m, rest) =>
    (titleOf? m).map fun title =>
      ({ title := title, stylesheets := m.filterMap Piece.stylesheet? }, String.ofList rest)

/-! ### The head as it is written -/

theorem Html.render_append (m n : Markup) : render (m ++ n) = render m ++ render n := by
  rw [render, chars_append, String.ofList_append]
  rfl

namespace Layout

/-- What stands before the end of a head. -/
def opening (head : DocumentHead) : Markup :=
  .raw "<!DOCTYPE html>" :: .openTag "html" [("lang", "en")] :: .openTag "head" [] ::
    .openTag "meta" [("charset", "utf-8")] ::
    .openTag "meta" [("name", "viewport"), ("content", "width=device-width, initial-scale=1.0")] ::
    .openTag "title" [] :: .text head.title :: .closeTag "title" :: head.stylesheets.flatMap stylesheetLink

theorem mem_stylesheetLinks {addresses : List String} {p : Piece}
    (h : p ∈ addresses.flatMap stylesheetLink) :
    ∃ address, p = .openTag "link" [("rel", "stylesheet"), ("href", address)] := by
  obtain ⟨address, -, hp⟩ := List.mem_flatMap.1 h
  exact ⟨address, List.mem_singleton.1 hp⟩

theorem filterMap_stylesheetLinks (addresses : List String) :
    (addresses.flatMap stylesheetLink).filterMap Piece.stylesheet? = addresses := by
  induction addresses with
  | nil => rfl
  | cons address others ih =>
    rw [List.flatMap_cons, List.filterMap_append, ih]
    rfl

theorem isSeparated_stylesheetLinks (addresses : List String) (m : Markup) :
    isSeparated (addresses.flatMap stylesheetLink ++ m) = isSeparated m := by
  induction addresses with
  | nil => rfl
  | cons address others ih => exact ih

theorem isLegible_of_mem_opening {head : DocumentHead} (h : head.title ≠ "") :
    ∀ p ∈ opening head, p.IsLegible := by
  have hlinks : ∀ p ∈ head.stylesheets.flatMap stylesheetLink, p.IsLegible := by
    intro p hp
    obtain ⟨address, rfl⟩ := mem_stylesheetLinks hp
    simp [Piece.IsLegible, isWord]
  have hdoctype : (Piece.raw "<!DOCTYPE html>").IsLegible :=
    ⟨"DOCTYPE html".toList, by decide, rfl⟩
  simp only [opening, List.forall_mem_cons]
  exact ⟨hdoctype, rfl, rfl, rfl, rfl, rfl, h, rfl, hlinks⟩

theorem readHead?_opening {head : DocumentHead} (h : head.title ≠ "") (rest : String) :
    readHead? (render (opening head) ++ "</head>" ++ rest) = some (head, rest) := by
  have hlinks : Piece.closeTag "head" ∉ head.stylesheets.flatMap stylesheetLink := by
    intro hmem
    obtain ⟨address, heq⟩ := mem_stylesheetLinks hmem
    cases heq
  have hmem : Piece.closeTag "head" ∉ opening head := by
    simpa [opening] using hlinks
  have hseparated : isSeparated (opening head ++ [.closeTag "head"]) = true :=
    isSeparated_stylesheetLinks head.stylesheets [.closeTag "head"]
  have hread := readThrough?_chars (by decide) (isLegible_of_mem_opening h) hmem hseparated rest.toList
  have hchars : (render (opening head) ++ "</head>" ++ rest).toList =
      chars (opening head) ++ (Piece.closeTag "head").chars ++ rest.toList := by
    rw [String.toList_append, String.toList_append, toList_render]
    rfl
  have htitle : titleOf? (opening head) = some head.title := rfl
  have hstylesheets : (opening head).filterMap Piece.stylesheet? = head.stylesheets :=
    filterMap_stylesheetLinks head.stylesheets
  rw [readHead?, hchars, hread]
  simp only [Option.bind_some, htitle, Option.map_some, hstylesheets, String.ofList_toList]

/-- The three texts of a title are written as one. -/
theorem render_head (title : String) (chrome : Chrome) :
    render (raw "<!DOCTYPE html>" ++ .openTag "html" [("lang", "en")] :: head title chrome) =
      render (opening ⟨title ++ " - " ++ chrome.siteName, chrome.stylesheets⟩) ++ "</head>" := by
  have htitle : chars (documentTitle title chrome) =
      (Piece.text (title ++ " - " ++ chrome.siteName)).chars := by
    simp [documentTitle, text, Piece.chars]
  have hend : (Piece.closeTag "head").chars = "</head>".toList := rfl
  rw [← String.toList_inj]
  simp only [head, opening, raw, element, void, toList_render, String.toList_append, chars_append, chars_cons,
    chars_nil, List.append_assoc, List.append_nil, List.cons_append, List.nil_append, htitle, hend]

theorem render_body (title : String) (chrome : Chrome) (content : Markup) :
    render (body title chrome content) =
      "<body>" ++ render (chrome.header title) ++ "<div class=\"container\">" ++ render content ++
        "</div>" ++ render chrome.footer ++ "</body>" := by
  have hbody : (Piece.openTag "body" []).chars = "<body>".toList := rfl
  have hcontainer : (Piece.openTag "div" [("class", "container")]).chars =
      "<div class=\"container\">".toList := by decide
  have hend : (Piece.closeTag "div").chars = "</div>".toList := rfl
  have hend' : (Piece.closeTag "body").chars = "</body>".toList := rfl
  rw [← String.toList_inj]
  simp only [body, classed, element, toList_render, String.toList_append, chars_append, chars_cons,
    chars_nil, List.append_assoc, List.append_nil, List.cons_append, List.nil_append, hbody, hcontainer,
    hend, hend']

/-- Whatever a document is made of, its head is read as it was given, and its body stands behind the head. -/
theorem readHead?_render_document (title : String) (chrome : Chrome) (content : Markup) :
    let told : DocumentHead := ⟨title ++ " - " ++ chrome.siteName, chrome.stylesheets⟩
    let rest := "<body>" ++ render (chrome.header title) ++ "<div class=\"container\">" ++ render content ++
      "</div>" ++ render chrome.footer ++ "</body></html>"
    render (document title chrome content) = render (opening told) ++ "</head>" ++ rest ∧
      readHead? (render (document title chrome content)) = some (told, rest) := by
  intro told rest
  have hdocument : render (document title chrome content) = render (opening told) ++ "</head>" ++ rest := by
    have hhtml : document title chrome content =
        (raw "<!DOCTYPE html>" ++ .openTag "html" [("lang", "en")] :: head title chrome) ++
          body title chrome content ++ [.closeTag "html"] := by
      simp [document, element]
    have hend : render [.closeTag "html"] = "</html>" := rfl
    rw [hhtml, render_append, render_append, render_head, render_body, hend]
    simp [rest, told, String.append_assoc]
  have htitle : told.title ≠ "" := by simp [told]
  refine ⟨hdocument, ?_⟩
  rw [hdocument]
  exact readHead?_opening htitle rest

end Layout

end DownloadSite
