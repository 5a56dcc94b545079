/-!
# Options and flags

What a command line may say: options, which take a value, flags, which take none, and requests for help
or the version of the program, which end everything. Each has a long name, some have a letter.
-/

namespace DownloadSite.CommandLine

/-- What takes a value. -/
inductive Opt where
  | release
  | output
  | config
  | siteBase
  | pageExtension
  | siteName
  deriving DecidableEq, Repr

/-- What takes no value. -/
inductive Flag where
  | stdout
  | noOpen
  deriving DecidableEq, Repr

inductive Request where
  | help
  | version
  deriving DecidableEq, Repr

/-- Anything that a word of a command line can name. -/
inductive Switch where
  | opt (opt : Opt)
  | flag (flag : Flag)
  | request (request : Request)
  deriving DecidableEq, Repr

namespace Opt

def name : Opt → String
  | .release => "release"
  | .output => "output"
  | .config => "config"
  | .siteBase => "site-base"
  | .pageExtension => "page-extension"
  | .siteName => "site-name"

def valueName : Opt → String
  | .release => "VERSION"
  | .output => "OUTPUT"
  | .config => "FILE"
  | .siteBase => "SITE_BASE"
  | .pageExtension => "PAGE_EXTENSION"
  | .siteName => "SITE_NAME"

def letter? : Opt → Option Char
  | .output => some 'o'
  | .config => some 'c'
  | _ => none

/-- The value of a path has to be there: it may not be empty. -/
def isPath : Opt → Bool
  | .output | .config => true
  | _ => false

def admits (opt : Opt) (value : String) : Bool := !(opt.isPath && value.isEmpty)

end Opt

def Flag.name : Flag → String
  | .stdout => "stdout"
  | .noOpen => "no-open"

def Request.name : Request → String
  | .help => "help"
  | .version => "version"

def Request.letter : Request → Char
  | .help => 'h'
  | .version => 'V'

namespace Switch

/-- Everything that a word can name, in the order of the help text. -/
def all : List Switch :=
  [.opt .release, .opt .output, .opt .config, .opt .siteBase, .opt .pageExtension, .opt .siteName,
   .flag .stdout, .flag .noOpen, .request .help, .request .version]

def name : Switch → String
  | .opt o => o.name
  | .flag f => f.name
  | .request r => r.name

def letter? : Switch → Option Char
  | .opt o => o.letter?
  | .flag _ => none
  | .request r => some r.letter

/-- How a message or the help text shows it: with dashes, and an option with its value. -/
def display : Switch → String
  | .opt o => "--" ++ o.name ++ " <" ++ o.valueName ++ ">"
  | switch => "--" ++ switch.name

def ofName? (name : String) : Option Switch := all.find? fun switch => switch.name = name

def ofLetter? (letter : Char) : Option Switch := all.find? fun switch => switch.letter? = some letter

theorem ofName?_name (switch : Switch) : ofName? switch.name = some switch := by
  cases switch with
  | opt o => cases o <;> decide
  | flag f => cases f <;> decide
  | request r => cases r <;> decide

end Switch

end DownloadSite.CommandLine
