import DownloadSite.Toml.Document

/-!
# Settings

A settings file may give four texts, all of them optional: a document with entries for some of them and
nothing else. Of several faults the one of the first entry counts, in the order in which the document
first mentions its entries; a name that is unknown counts before its value.
-/

namespace DownloadSite

/-- What a settings file may give. -/
inductive Field where
  | version
  | siteBase
  | pageExtension
  | siteName
  deriving DecidableEq, Repr

namespace Field

def all : List Field := [.version, .siteBase, .pageExtension, .siteName]

def name : Field → String
  | .version => "version"
  | .siteBase => "site_base"
  | .pageExtension => "page_extension"
  | .siteName => "site_name"

def ofName? (name : String) : Option Field := all.find? fun field => field.name = name

theorem ofName?_name (field : Field) : ofName? field.name = some field := by
  cases field <;> decide

end Field

/-- The texts that a settings file gives. -/
structure Settings where
  version : Option String := none
  siteBase : Option String := none
  pageExtension : Option String := none
  siteName : Option String := none
  deriving DecidableEq, Repr

namespace Settings

def get (settings : Settings) : Field → Option String
  | .version => settings.version
  | .siteBase => settings.siteBase
  | .pageExtension => settings.pageExtension
  | .siteName => settings.siteName

def set (settings : Settings) (field : Field) (text : String) : Settings :=
  match field with
  | .version => { settings with version := some text }
  | .siteBase => { settings with siteBase := some text }
  | .pageExtension => { settings with pageExtension := some text }
  | .siteName => { settings with siteName := some text }

theorem get_set (settings : Settings) (field other : Field) (text : String) :
    (settings.set field text).get other = if other = field then some text else settings.get other := by
  cases field <;> cases other <;> rfl

theorem ext_get {settings other : Settings} (h : ∀ field, settings.get field = other.get field) :
    settings = other := by
  cases settings
  cases other
  have h1 := h .version
  have h2 := h .siteBase
  have h3 := h .pageExtension
  have h4 := h .siteName
  simp only [get] at h1 h2 h3 h4
  simp [h1, h2, h3, h4]

inductive Fault where
  /-- The text is not a document. -/
  | malformed
  /-- An entry that is no setting. -/
  | unknownField (name : String)
  /-- A setting with a value that is not a text; the value is described. -/
  | wrongType (found : String)
  deriving DecidableEq, Repr

/-- The names of all fields as a message lists them. -/
def fieldList : String :=
  ", ".intercalate (Field.all.map fun field => "`" ++ field.name ++ "`")

/-- The wording of a fault; there is no more to say about a text that is not a document. -/
def Fault.message : Fault → String
  | .malformed => "syntax"
  | .unknownField name => "data: unknown field `" ++ name ++ "`, expected one of " ++ fieldList
  | .wrongType found => "data: invalid type: " ++ found ++ ", expected a string"

/-- Takes one entry of a document into the settings. -/
def take (settings : Settings) (entry : String × Toml.Node) : Except Fault Settings :=
  match Field.ofName? entry.1 with
  | none => .error (.unknownField entry.1)
  | some field =>
    match entry.2 with
    | .text text => .ok (settings.set field text)
    | node => .error (.wrongType node.describe)

def ofEntries (entries : Toml.Entries) : Except Fault Settings :=
  entries.foldlM take {}

def ofToml (document : String) : Except Fault Settings :=
  match Toml.parse? document with
  | none => .error .malformed
  | some entries => ofEntries entries

end Settings

end DownloadSite
