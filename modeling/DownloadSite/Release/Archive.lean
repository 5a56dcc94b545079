import DownloadSite.Html.Markup

/-!
# Released archives

Every release is published as one archive for each of several Java platforms. The file name joins the
version and a suffix for the platform, and the archives of all releases lie in one directory of a file
server.
-/

namespace DownloadSite.Archive

/-- The directory of the released archives. -/
def baseUrl : String := "ftp://jode.sourceforge.net/pub/jode/"

/-- The same directory as it is linked from the text of the page. -/
def serverUrl : String := "ftp://jode.sourceforge.net/pub/jode"

/-- A platform that every release is published for. -/
structure Platform where
  /-- What the file name has behind the version. -/
  suffix : String
  /-- What the list of archives tells about it, as written markup. -/
  note : String
  deriving DecidableEq, Repr

/-- The published platforms in the order of the list. -/
def platforms : List Platform :=
  [{ suffix := "-1.1"
     note := " is for JDK&nbsp;1.1.  It contains the collection classes from the GNU Classpath "
       ++ "project.  If you want to use the swing interface, you have to download swing separately." },
   { suffix := "-1.2"
     note := " is for JDK&nbsp;1.2 or better." }]

def fileName (version suffix : String) : String := "jode-" ++ version ++ suffix ++ ".jar"

def url (version suffix : String) : String := baseUrl ++ fileName version suffix

open Html in
def link (version suffix : String) : Markup :=
  anchor (url version suffix) (text (fileName version suffix))

open Html in
def item (version : String) (platform : Platform) : Markup :=
  element "li" [] (link version platform.suffix ++ raw platform.note)

open Html in
def list (version : String) : Markup :=
  element "ul" [] (platforms.flatMap (item version))

end DownloadSite.Archive
