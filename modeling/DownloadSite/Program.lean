import DownloadSite.CommandLine.Help
import DownloadSite.CommandLine.Parse
import DownloadSite.Log.Request
import DownloadSite.Report
import DownloadSite.Settings.File
import DownloadSite.Site.Write

/-!
# The program

A run reads its command line, installs the log filter that is asked for, validates the command line, resolves
the settings, and prints the page or writes the site. A page that is written may be opened in a browser. What
others decide is given from around the run: whether a page opens, and in what words a command line or a
document is refused.
-/

namespace DownloadSite

/-- Why the work that a command line asks for is not done. -/
inductive Failure where
  /-- The settings file is not there. -/
  | noSettingsFile (path : String)
  | version (fault : Version.Fault)
  | load (fault : Settings.LoadFault)
  | resolve (fault : Resolved.Fault)
  | write (fault : Site.WriteFault)
  deriving DecidableEq, Repr

/-- What failed, outermost first. -/
def Failure.chain : Failure → List String
  | .noSettingsFile path => ["Settings file does not exist: " ++ path]
  | .version fault => [fault.message]
  | .load fault => fault.chain
  | .resolve fault => [fault.message]
  | .write fault => fault.chain

namespace Config

def validateRelease (config : Config) : Except Failure Unit :=
  match config.release with
  | none => .ok ()
  | some release =>
    match Version.check release with
    | .error fault => .error (.version fault)
    | .ok () => .ok ()

/-- Merges what the command line gives with the settings of a file. -/
def resolve (config : Config) (file : Settings) : Except Failure Resolved :=
  match Resolved.resolve config.settings file with
  | .error fault => .error (.resolve fault)
  | .ok resolved => .ok resolved

variable {m : Type → Type} [Monad m] [FileAccess m]

/-- Checks what can be checked before anything is read: that the settings file is there, and the version
of the command line. -/
def validate (config : Config) : m (Except Failure Unit) := do
  match config.config with
  | none => return config.validateRelease
  | some path =>
    if ← FileAccess.isPresent path then return config.validateRelease
    else return .error (.noSettingsFile path)

/-- The settings of the settings file; none are given without one. -/
def loadSettings (config : Config) : m (Except Failure Settings) := do
  match config.config with
  | none => return .ok {}
  | some path =>
    match ← Settings.load path with
    | .error fault => return .error (.load fault)
    | .ok settings => return .ok settings

def resolveAll (config : Config) : m (Except Failure Resolved) := do
  match ← config.loadSettings with
  | .error failure => return .error failure
  | .ok file => return config.resolve file

def prepare (config : Config) : m (Except Failure Resolved) := do
  match ← config.validate with
  | .error failure => return .error failure
  | .ok () => config.resolveAll

end Config

/-! ### Running -/

/-- What a run meets besides its words and the files. -/
structure Surroundings where
  /-- What becomes of a page that a browser is to open: there is a reason unless it is opened. -/
  opening : String → Except String Unit
  /-- What is reported of words that cannot be read, behind the first line. -/
  usage : List String → String := fun _ => ""
  /-- What is reported of a document that is refused, behind the first words. -/
  excerpt : String → String := fun _ => ""

/-- What whoever starts a run sees of it besides the files. -/
structure Shown where
  exit : Nat := 0
  stdout : String := ""
  stderr : String := ""
  deriving DecidableEq, Repr

/-- The outcome of a command line that asks for no work; the report of a problem goes on behind its first
line. -/
def CommandLine.Stop.outcome (stop : Stop) (usage : String := "") : Shown :=
  match stop with
  | .asked .help => { stdout := CommandLine.helpText }
  | .asked .version => { stdout := CommandLine.versionText }
  | stop => { exit := 2, stderr := CommandLine.firstLine stop.message ++ usage }

def configurationContext : String := "Invalid configuration"

/-- The first words of what is reported of a document that is refused. -/
def documentRefused : String := "TOML parse error"

def Failure.reported (excerpt : String → String) : Failure → List String
  | .load (.invalid path document _) =>
    ["In " ++ path, "Invalid settings file", documentRefused ++ excerpt document]
  | failure => failure.chain

def browserFailed (path reason : String) : Log.Event where
  level := .warn
  origin := "jode_site"
  message := "Failed to open " ++ path ++ " in browser: " ++ reason

/-- What there is to tell once a page is written and, unless the browser is left alone, opened. -/
def Config.opened (config : Config) (opening : String → Except String Unit) (path : String) :
    List Log.Event :=
  if config.noOpen then []
  else
    match opening path with
    | .error reason => [browserFailed path reason]
    | .ok () => []

variable {m : Type → Type} [Monad m] [FileAccess m]

/-- Does the work that a command line asks for, with a log filter. -/
def Config.run (config : Config) (surroundings : Surroundings) (filter : Log.Filter) (stamp : String) :
    m Shown := do
  match ← config.prepare with
  | .error failure =>
    let report := Report.text (configurationContext :: failure.reported surroundings.excerpt)
    return { exit := 1, stderr := report }
  | .ok resolved =>
    let site := Site.ofResolved resolved
    if config.stdout then return { stdout := site.page ++ "\n" }
    else
      let written ← site.write config.output
      let log := filter.lines stamp written.events
      match written.result with
      | .error fault => return { exit := 1, stderr := log ++ Report.text fault.chain }
      | .ok path =>
        return { stderr := log ++ filter.lines stamp (config.opened surroundings.opening path) }

/-- Runs the program on the words of its command line, with the log filter that is asked for. Log lines stand
behind a time stamp. -/
def run (surroundings : Surroundings) (request : Option String) (words : List String) (stamp : String) :
    m Shown :=
  match CommandLine.parse words with
  | .error stop => return stop.outcome (surroundings.usage words)
  | .ok config =>
    match Log.install none request with
    | .error fault => return { exit := 1, stderr := Report.text [fault.message] }
    | .ok filter => config.run surroundings filter stamp

/-- Runs the program where no page can be opened. Reports are cut where they would go on in the words of what
has refused the command line or the document. -/
def runUnder (request : Option String) (words : List String) (reason stamp : String) : m Shown :=
  run { opening := fun _ => .error reason } request words stamp

end DownloadSite
