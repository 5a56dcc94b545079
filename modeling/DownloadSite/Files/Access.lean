import DownloadSite.Files.Path

/-!
# Access to files

What a program may do with the files around it, whatever holds them, and how each of these steps may
fail. A directory is created together with the missing ones above it by `ensureDirectory`.
-/

namespace DownloadSite

inductive FileFault where
  /-- The path has a character that ends texts for the system. -/
  | nulInPath
  | missing
  | alreadyExists
  | notDirectory
  | isDirectory
  | nameTooLong
  /-- A fault of another kind with its wording. -/
  | other (wording : String)
  deriving DecidableEq, Repr

def FileFault.message : FileFault → String
  | .nulInPath => "file name contained an unexpected NUL byte"
  | .missing => "No such file or directory (os error 2)"
  | .alreadyExists => "File exists (os error 17)"
  | .notDirectory => "Not a directory (os error 20)"
  | .isDirectory => "Is a directory (os error 21)"
  | .nameTooLong => "File name too long (os error 36)"
  | .other wording => wording

class FileAccess (m : Type → Type) where
  /-- Creates one directory in an existing one. -/
  makeDirectory : String → m (Except FileFault Unit)
  isDirectory : String → m Bool
  isPresent : String → m Bool
  read : String → m (Except FileFault ByteArray)
  /-- Gives a file its whole content, creating it if it is missing. -/
  write : String → ByteArray → m (Except FileFault Unit)

namespace FileAccess

variable {m : Type → Type} [Monad m] [FileAccess m]

/-- Creates a directory; one that is there already is as good. -/
def makeOrKeep (path : String) : m (Except FileFault Unit) := do
  match ← makeDirectory path with
  | .error .alreadyExists =>
    if ← isDirectory path then return .ok () else return .error .alreadyExists
  | result => return result

/-- Creates the first of several paths as a directory. If something above it is missing, the others,
which lead there one step less each, are created before it is tried again. -/
def ensureFirst : List String → m (Except FileFault Unit)
  | [] => return .ok ()
  | path :: above => do
    match ← makeOrKeep path with
    | .error .missing =>
      match ← ensureFirst above with
      | .error fault => return .error fault
      | .ok () => makeOrKeep path
    | result => return result

/-- Creates a directory and the missing ones above it. The empty path, the current directory, and a path
of slashes only, the root, are always there. -/
def ensureDirectory (path : String) : m (Except FileFault Unit) :=
  if (Path.steps path).isEmpty then return .ok ()
  else ensureFirst (path :: Path.ancestors path)

end FileAccess

end DownloadSite
