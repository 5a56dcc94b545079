import DownloadSite.Page.Layout
import DownloadSite.Page.Template
import DownloadSite.Release.Archive

/-!
# The download page

The page tells where the released sources and the precompiled archives of one release are, and how to
build from the repository.
-/

namespace DownloadSite.DownloadPage

open Html

def title : String := "Download"

/-- The commands that prepare a checkout of the repository, written so that they can be pasted. -/
def bootstrapCommand : String := "aclocal && automake -a && autoconf"

def fileList : Target := .hosted "project/filelist.php"

def linksPage : Target := .sibling "links"

def repository : Target := .hosted "cvs/"

def sources : Template :=
  .markup (element "h1" [] (text title))
    :: Template.element "p"
      [.markup (text "Jode is available in the download section.  Click "),
       .link fileList (text "here"),
       .markup (text " to download the latest released source code of "
         ++ element "i" [] (text "JODE"))]

def requirements : Template :=
  Template.element "p"
    [.markup (text "If you download the source code, you need several other packages to build "
       ++ element "i" [] (text "JODE") ++ text ", check the "),
     .link linksPage (text "links page"),
     .markup (text ".")]

def archives (version : String) : Template :=
  [.markup (element "p" []
      (text ("The simplest way to get it, especially for non unix users, is in "
          ++ "precompiled form, though.  I have two jar archives at the ")
        ++ anchor Archive.serverUrl (text "xftp server")
        ++ text (".  You may need to press shift while clicking on the link, "
          ++ "depending on your browser."))
      ++ Archive.list version)]

def checkout : Template :=
  .markup (element "h1" [] (text "CVS Repository"))
    :: Template.element "p"
      [.markup (text "You can get the latest sources from the "),
       .link repository (text "CVS repository"),
       .markup (text ".  Follow the instruction on that page; use "
         ++ element "code" [] (text "jode") ++ text " as " ++ element "i" [] (text "modulename")
         ++ text ".  Then change to the directory jode and run")]
    ++ [.markup (element "pre" [] (raw bootstrapCommand)
      ++ element "p" [] (text "Afterwards follow the instruction in the INSTALL file."))]

def template (version : String) : Template :=
  sources ++ requirements ++ archives version ++ checkout

def document (version : String) (chrome : Chrome) (links : Links) : Markup :=
  Layout.document title chrome ((template version).fill links)

end DownloadSite.DownloadPage
