/-!
# Paths

A path is text: names joined by slashes, absolute if it begins with one. A walk along a path takes its
steps one by one, and a slash more or less between two names makes no difference to it.
-/

namespace DownloadSite.Path

/-- The names of a path in order, `.` and `..` among them. -/
def steps (path : String) : List String :=
  ((path.toList.splitOn '/').filter (· ≠ [])).map String.ofList

def isAbsolute (path : String) : Bool := path.toList.head? = some '/'

def endsInSlash (path : String) : Bool := path.toList.getLast? = some '/'

/-- A name behind a path, with a slash between the two unless there is one or the path is empty. -/
def join (path name : String) : String :=
  if path.isEmpty || endsInSlash path then path ++ name else path ++ "/" ++ name

/-- The steps without those that stay where they are; one that begins a relative path is kept. -/
def components (path : String) : List String :=
  match steps path with
  | [] => []
  | first :: rest =>
    let rest := rest.filter (· ≠ ".")
    if isAbsolute path ∧ first = "." then rest else first :: rest

def ofComponents (absolute : Bool) (names : List String) : String :=
  (if absolute then "/" else "") ++ "/".intercalate names

/-- The paths above one whose components are given from the last to the first. -/
def above (absolute : Bool) : List String → List String
  | [] => []
  | [_] => []
  | _ :: up => ofComponents absolute up.reverse :: above absolute up

/-- The paths of the directories that a path leads through, the nearest first. -/
def ancestors (path : String) : List String :=
  above (isAbsolute path) (components path).reverse

end DownloadSite.Path
