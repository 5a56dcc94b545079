import DownloadSite.Files.Access
import DownloadSite.Log.Event
import DownloadSite.Site.Basic
import DownloadSite.Site.Stylesheet
import DownloadSite.Text.Utf8

/-!
# Writing the site

The site is written into a directory: the stylesheet below it and the page itself, in this order.
Missing directories are created. The first step that fails ends the writing.
-/

namespace DownloadSite.Site

/-- Why a site is not written: the step that failed, and why it did. -/
inductive WriteFault where
  | outputDirectory (path : String) (fault : FileFault)
  | assetsDirectory (path : String) (fault : FileFault)
  | asset (name : String) (fault : FileFault)
  | page (path : String) (fault : FileFault)
  deriving DecidableEq, Repr

/-- The report of a fault, the step that failed first. -/
def WriteFault.chain : WriteFault → List String
  | .outputDirectory path fault => ["Failed to create output directory: " ++ path, fault.message]
  | .assetsDirectory path fault => ["Failed to create assets directory: " ++ path, fault.message]
  | .asset name fault => ["Failed to write CSS asset: " ++ name, fault.message]
  | .page path fault => ["Failed to write " ++ path, fault.message]

/-- What writing leads to, besides the files: its result, and what it has to tell. -/
structure Written (alpha : Type) where
  result : Except WriteFault alpha
  events : List Log.Event := []

def pageName : String := "download.html"

def stylesheetName : String := "site.css"

/-- The directory beside the page that the stylesheet is written to. -/
def assetsName : String := "assets"

def stylesheetWritten (name : String) : Log.Event where
  level := .debug
  origin := "jode_site::assets"
  message := "wrote stylesheet"
  values := [("asset", .quoted name)]

def pageWritten (site : Site) (path : String) : Log.Event where
  level := .info
  origin := "jode_site::site"
  message := "generated " ++ path
  values := [("version", .plain site.version), ("site_base", .quoted site.hosting.siteBase)]

variable {m : Type → Type} [Monad m] [FileAccess m]

def writeStylesheet (directory : String) : m (Written Unit) := do
  match ← FileAccess.ensureDirectory directory with
  | .error fault => return { result := .error (.assetsDirectory directory fault) }
  | .ok () =>
    match ← FileAccess.write (Path.join directory stylesheetName) (Text.encode Stylesheet.text) with
    | .error fault => return { result := .error (.asset stylesheetName fault) }
    | .ok () => return { result := .ok (), events := [stylesheetWritten stylesheetName] }

def writePage (site : Site) (output : String) : m (Written String) := do
  let path := Path.join output pageName
  match ← FileAccess.write path (Text.encode site.page) with
  | .error fault => return { result := .error (.page path fault) }
  | .ok () => return { result := .ok path, events := [site.pageWritten path] }

/-- Writes the site into a directory; the result is the path of the page. -/
def write (site : Site) (output : String) : m (Written String) := do
  match ← FileAccess.ensureDirectory output with
  | .error fault => return { result := .error (.outputDirectory output fault) }
  | .ok () =>
    let assets ← writeStylesheet (Path.join output assetsName)
    match assets.result with
    | .error fault => return { result := .error fault, events := assets.events }
    | .ok () =>
      let page ← site.writePage output
      return { page with events := assets.events ++ page.events }

end DownloadSite.Site
