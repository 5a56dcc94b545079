import DownloadSite.Text.Quoted

/-!
# Release versions

A version becomes part of a file name in an address, so a version from outside has to be one segment
of an address path that needs no encoding: letters and digits of ASCII and a few marks, not empty, and
neither of the two segments that name a directory. `check` names the leftmost character that does not
belong there.
-/

namespace DownloadSite.Version

/-- The marks that a version may have beside letters and digits. -/
def marks : List Char := ['.', '_', '~', '-', '+']

def isAllowed (c : Char) : Bool := c.isAlphanum || marks.contains c

inductive Fault where
  | empty
  /-- The version is one of the segments `.` and `..`. -/
  | dotSegment (version : String)
  /-- The leftmost character that is not allowed. -/
  | forbidden (c : Char) (version : String)
  deriving DecidableEq, Repr

def Fault.message : Fault → String
  | .empty => "Release version must not be empty"
  | .dotSegment version => "Release version is not a valid path segment: " ++ version
  | .forbidden c version =>
    "Release version contains invalid character " ++ Text.quoteChar c ++ ": " ++ version

/-- Accepts a version that is one segment of an address path. -/
def check (version : String) : Except Fault Unit :=
  if version = "" then .error .empty
  else if version = "." ∨ version = ".." then .error (.dotSegment version)
  else
    match version.toList.find? (!isAllowed ·) with
    | some c => .error (.forbidden c version)
    | none => .ok ()

end DownloadSite.Version
