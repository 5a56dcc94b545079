import DownloadSite.Page.Chrome

/-!
# The layout of a page

Every page is one complete document: a head with the title and the stylesheets, and a body with the
header, the page's own content in a container, and the footer.
-/

namespace DownloadSite.Layout

open Html

/-- The title of a document: that of the page and the name of the site. -/
def documentTitle (title : String) (chrome : Chrome) : Markup :=
  text title ++ text " - " ++ text chrome.siteName

def stylesheetLink (address : String) : Markup :=
  void "link" [("rel", "stylesheet"), ("href", address)]

def head (title : String) (chrome : Chrome) : Markup :=
  element "head" []
    (void "meta" [("charset", "utf-8")]
      ++ void "meta" [("name", "viewport"),
        ("content", "width=device-width, initial-scale=1.0")]
      ++ element "title" [] (documentTitle title chrome)
      ++ chrome.stylesheets.flatMap stylesheetLink)

def body (title : String) (chrome : Chrome) (content : Markup) : Markup :=
  element "body" []
    (chrome.header title ++ classed "div" "container" content ++ chrome.footer)

def document (title : String) (chrome : Chrome) (content : Markup) : Markup :=
  raw "<!DOCTYPE html>"
    ++ element "html" [("lang", "en")] (head title chrome ++ body title chrome content)

end DownloadSite.Layout
