import DownloadSite.Html.Markup

/-!
# Chrome

What surrounds every page of a site: a header that shows the page's title, a footer, the stylesheets,
and the name of the site.
-/

namespace DownloadSite

open Html

structure Chrome where
  /-- The header above a page of the given title. -/
  header : String → Markup
  footer : Markup
  /-- The addresses of the stylesheets in the order of their links. -/
  stylesheets : List String := []
  /-- The name behind every page's title. -/
  siteName : String := "JODE"

namespace Chrome

/-- Where the bundled stylesheet lies, relative to the page. -/
def stylesheet : String := "assets/site.css"

/-- The chrome of the project's own site under the given name. -/
def site (name : String) : Chrome where
  header title :=
    classed "header" "site-header"
      (classed "div" "site-title" (text name)
        ++ classed "div" "site-subtitle" (text "Java Optimize and Decompile Environment")
        ++ classed "nav" "site-nav" (classed "span" "nav-current" (text title)))
  footer :=
    classed "footer" "site-footer"
      (element "p" []
        (text name ++ text " is hosted by "
          ++ element "a" [("href", "https://sourceforge.net"), ("target", "_blank")]
            (text "SourceForge")))
  stylesheets := [stylesheet]
  siteName := name

def default : Chrome := site "JODE"

end Chrome

end DownloadSite
