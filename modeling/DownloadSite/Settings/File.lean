import DownloadSite.Files.Access
import DownloadSite.Settings.Basic
import DownloadSite.Text.Utf8

/-!
# Settings files

A settings file is read as text and its text as a document; the report of a failure begins with the
step that failed.
-/

namespace DownloadSite.Settings

inductive ReadFault where
  | file (fault : FileFault)
  | notText
  deriving DecidableEq, Repr

def ReadFault.message : ReadFault → String
  | .file fault => fault.message
  | .notText => "stream did not contain valid UTF-8"

/-- Why a file gives no settings. -/
inductive LoadFault where
  | unreadable (path : String) (fault : ReadFault)
  | invalid (path document : String) (fault : Fault)
  deriving DecidableEq, Repr

/-- What a text refused as settings is called, and what is wrong with it. -/
def Fault.chain (fault : Fault) : List String := ["Invalid settings file", fault.message]

/-- The report of a fault, the step that failed first. -/
def LoadFault.chain : LoadFault → List String
  | .unreadable path fault => ["Failed to read settings file: " ++ path, fault.message]
  | .invalid path _ fault => ("In " ++ path) :: fault.chain

/-- The settings that the content of a file gives. -/
def ofContent (path : String) (content : ByteArray) : Except LoadFault Settings :=
  match Text.decode? content with
  | none => .error (.unreadable path .notText)
  | some text =>
    match ofToml text with
    | .error fault => .error (.invalid path text fault)
    | .ok settings => .ok settings

def load {m : Type → Type} [Monad m] [FileAccess m] (path : String) :
    m (Except LoadFault Settings) := do
  match ← FileAccess.read path with
  | .error fault => return .error (.unreadable path (.file fault))
  | .ok content => return ofContent path content

end DownloadSite.Settings
