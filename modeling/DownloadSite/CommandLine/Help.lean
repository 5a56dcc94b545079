import DownloadSite.CommandLine.Switch

/-!
# The help text

The help text lists everything that a command line may say, one line each, with the descriptions in one
column.
-/

namespace DownloadSite.CommandLine

def programName : String := "jode-site"

def programVersion : String := "0.1.0"

def programSummary : String := "Generate the static download page of the JODE website"

def Switch.description : Switch → String
  | .opt .release => "Release version used in jar download links (e.g. 1.1.8)"
  | .opt .output => "Output directory [default: dist]"
  | .opt .config => "TOML settings file; command line flags take precedence"
  | .opt .siteBase => "Project base URL on the hosting site"
  | .opt .pageExtension => "Extension of sibling pages (empty for clean URLs)"
  | .opt .siteName => "Site name shown in header, footer and page title"
  | .flag .stdout => "Print the page to stdout instead of writing files"
  | .flag .noOpen => "Do not open the generated page in a browser"
  | .request .help => "Print help"
  | .request .version => "Print version"

def Switch.column (switch : Switch) : String :=
  match switch.letter? with
  | some letter => String.ofList ['-', letter] ++ ", " ++ switch.display
  | none => "    " ++ switch.display

def columnWidth : Nat := (Switch.all.map fun switch => switch.column.length).foldl max 0

def Switch.helpLine (switch : Switch) : String :=
  "  " ++ switch.column.pushn ' ' (columnWidth + 2 - switch.column.length) ++ switch.description
    ++ "\n"

def helpText : String :=
  programSummary ++ "\n\nUsage: " ++ programName ++ " [OPTIONS]\n\nOptions:\n"
    ++ String.join (Switch.all.map Switch.helpLine)

def versionText : String := programName ++ " " ++ programVersion ++ "\n"

end DownloadSite.CommandLine
