import DownloadSite.Settings.Basic

/-!
# What a command line asks for

The result of reading a command line: settings that are given there, where the settings file and the
output are, and what to do with the page.
-/

namespace DownloadSite

/-- The directory that is written to unless another is given. -/
def defaultOutput : String := "dist"

/-- Everything that a command line may say about the work to do. -/
structure Config where
  release : Option String := none
  output : String := defaultOutput
  /-- The path of the settings file. -/
  config : Option String := none
  siteBase : Option String := none
  pageExtension : Option String := none
  siteName : Option String := none
  /-- Print the page instead of writing files. -/
  stdout : Bool := false
  /-- Leave the browser alone. -/
  noOpen : Bool := false
  deriving DecidableEq, Repr

def Config.settings (config : Config) : Settings where
  version := config.release
  siteBase := config.siteBase
  pageExtension := config.pageExtension
  siteName := config.siteName

end DownloadSite
