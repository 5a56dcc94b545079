import DownloadSite.Links
import DownloadSite.Release.Version
import DownloadSite.Settings.Basic

/-!
# Resolved settings

Settings come from the command line and from a file. For each field on its own, what the command line
gives counts first, then what the file gives, then a default; a text that is given counts even if it is
empty. There is no default for the version, and the version that counts is checked.
-/

namespace DownloadSite

/-- Settings with a text for every field. -/
structure Resolved where
  version : String
  siteBase : String
  pageExtension : String
  siteName : String
  deriving DecidableEq, Repr

namespace Resolved

inductive Fault where
  /-- No version is given anywhere. -/
  | noVersion
  | version (fault : Version.Fault)
  deriving DecidableEq, Repr

def Fault.message : Fault → String
  | .noVersion =>
    "No release version given; pass --release or set `version` in the settings file"
  | .version fault => fault.message

/-- What counts for a field: the first argument if it is given, else the second. -/
def choose (settings file : Settings) (field : Field) : Option String :=
  (settings.get field).or (file.get field)

/-- The default of a field; the version has none and is left empty here. -/
def default : Field → String
  | .version => ""
  | .siteBase => ({} : Hosting).siteBase
  | .pageExtension => ({} : Hosting).pageExtension
  | .siteName => "JODE"

/-- What counts for a field, or its default. -/
def chooseOrDefault (settings file : Settings) (field : Field) : String :=
  (choose settings file field).getD (default field)

/-- Merges settings from the command line and from a file. -/
def resolve (settings file : Settings) : Except Fault Resolved :=
  match choose settings file .version with
  | none => .error .noVersion
  | some version =>
    match Version.check version with
    | .error fault => .error (.version fault)
    | .ok () =>
      .ok
        { version
          siteBase := chooseOrDefault settings file .siteBase
          pageExtension := chooseOrDefault settings file .pageExtension
          siteName := chooseOrDefault settings file .siteName }

end Resolved

end DownloadSite
