import DownloadSite.Files.Access

/-!
# File trees

Files and directories as a tree, and a place in it that relative paths start from. A path is walked name
by name; every name but the last has to lead to a directory. The tree is seen through `get?`, and a
change of one entry through `lookup_setEntry`.
-/

namespace DownloadSite

/-- A file with its content, or a directory with its named entries. -/
inductive FileTree where
  | file (content : ByteArray)
  | directory (entries : List (String × FileTree))

/-- The names that lead from the root to a node. -/
abbrev Location := List String

namespace FileTree

/-- Gives a name another node, or enters it behind the others. -/
def setEntry (name : String) (node : FileTree) :
    List (String × FileTree) → List (String × FileTree)
  | [] => [(name, node)]
  | entry :: rest =>
    if entry.1 = name then (name, node) :: rest else entry :: setEntry name node rest

def get? : FileTree → Location → Option FileTree
  | node, [] => some node
  | .file _, _ :: _ => none
  | .directory entries, name :: location =>
    (entries.lookup name).bind fun node => node.get? location

/-- Puts a node at a location whose parent is a directory; elsewhere nothing changes. -/
def set (new : FileTree) : FileTree → Location → FileTree
  | _, [] => new
  | .file content, _ :: _ => .file content
  | .directory entries, [name] => .directory (setEntry name new entries)
  | .directory entries, name :: location =>
    match entries.lookup name with
    | some node => .directory (setEntry name (set new node location) entries)
    | none => .directory entries

def remove : FileTree → Location → FileTree
  | node, [] => node
  | .file content, _ :: _ => .file content
  | .directory entries, [name] => .directory (entries.filter fun entry => entry.1 ≠ name)
  | .directory entries, name :: location =>
    match entries.lookup name with
    | some node => .directory (setEntry name (remove node location) entries)
    | none => .directory entries

def isDirectoryAt (tree : FileTree) (location : Location) : Bool :=
  match tree.get? location with
  | some (.directory _) => true
  | _ => false

/-- The longest name that a directory can hold, in bytes. -/
def maxNameBytes : Nat := 255

def walk (tree : FileTree) : Location → List String → Except FileFault Location
  | location, [] => .ok location
  | location, name :: rest =>
    if !tree.isDirectoryAt location then .error .notDirectory
    else if name = "." then walk tree location rest
    else if name = ".." then walk tree location.dropLast rest
    else if maxNameBytes < name.utf8ByteSize then .error .nameTooLong
    else if (tree.get? (location ++ [name])).isNone then .error .missing
    else walk tree (location ++ [name]) rest

/-- Everything below a directory: the path of each node, with a slash behind that of a directory, and
the content of each file. -/
def listEntries (above : String) : List (String × FileTree) → List (String × Option ByteArray)
  | [] => []
  | (name, .file content) :: rest => (above ++ name, some content) :: listEntries above rest
  | (name, .directory entries) :: rest =>
    (above ++ name ++ "/", none) :: listEntries (above ++ name ++ "/") entries
      ++ listEntries above rest
termination_by entries => sizeOf entries

/-! ### The view after a change -/

theorem lookup_setEntry (name other : String) (node : FileTree)
    (entries : List (String × FileTree)) :
    (setEntry name node entries).lookup other =
      if other = name then some node else entries.lookup other := by
  induction entries with
  | nil =>
    by_cases h : other = name
    · simp [setEntry, h]
    · have hb : (other == name) = false := by simpa using h
      simp [setEntry, List.lookup_cons, h, hb]
  | cons entry rest ih =>
    obtain ⟨key, value⟩ := entry
    unfold setEntry
    by_cases hk : key = name
    · subst hk
      by_cases h : other = key
      · simp [h]
      · have hb : (other == key) = false := by simpa using h
        simp [List.lookup_cons, h, hb]
    · by_cases h' : other = key
      · subst h'
        simp [hk]
      · have hb : (other == key) = false := by simpa using h'
        simp [List.lookup_cons, hk, hb, ih]

end FileTree

/-- A tree with the location that relative paths start from. -/
structure Place where
  root : FileTree
  current : Location

namespace Place

/-- The longest path that the system takes, in bytes. -/
def maxPathBytes : Nat := 4095

/-- Refuses a path that no walk is begun for. -/
def checkPath (path : String) : Except FileFault Unit :=
  if path.toList.contains '\x00' then .error .nulInPath
  else if path.isEmpty then .error .missing
  else if maxPathBytes < path.utf8ByteSize then .error .nameTooLong
  else .ok ()

def start (place : Place) (path : String) : Location :=
  if Path.isAbsolute path then [] else place.current

def locate (place : Place) (path : String) : Except FileFault Location := do
  checkPath path
  let location ← place.root.walk (place.start path) (Path.steps path)
  if Path.endsInSlash path && !place.root.isDirectoryAt location then .error .notDirectory
  else .ok location

/-- The directory that a path's last name belongs to, and that name. A path that ends in no proper name
leads to a directory in any case and has none. -/
def locateLast (place : Place) (path : String) : Except FileFault (Location × Option String) := do
  checkPath path
  let steps := Path.steps path
  let parent ← place.root.walk (place.start path) steps.dropLast
  match steps.getLast? with
  | none => .ok (parent, none)
  | some name =>
    if !place.root.isDirectoryAt parent then .error .notDirectory
    else if name = "." ∨ name = ".." then .ok (parent, none)
    else if FileTree.maxNameBytes < name.utf8ByteSize then .error .nameTooLong
    else .ok (parent, some name)

def put (place : Place) (location : Location) (node : FileTree) : Place :=
  { place with root := FileTree.set node place.root location }

def makeDirectory (place : Place) (path : String) : Except FileFault Unit × Place :=
  match place.locateLast path with
  | .error fault => (.error fault, place)
  | .ok (_, none) => (.error .alreadyExists, place)
  | .ok (parent, some name) =>
    if (place.root.get? (parent ++ [name])).isSome then (.error .alreadyExists, place)
    else (.ok (), place.put (parent ++ [name]) (.directory []))

def isDirectory (place : Place) (path : String) : Bool :=
  match place.locate path with
  | .ok location => place.root.isDirectoryAt location
  | .error _ => false

def isPresent (place : Place) (path : String) : Bool := (place.locate path).isOk

def read (place : Place) (path : String) : Except FileFault ByteArray :=
  match place.locate path with
  | .error fault => .error fault
  | .ok location =>
    match place.root.get? location with
    | some (.file content) => .ok content
    | some (.directory _) => .error .isDirectory
    | none => .error .missing

def write (place : Place) (path : String) (content : ByteArray) : Except FileFault Unit × Place :=
  match place.locateLast path with
  | .error fault => (.error fault, place)
  | .ok (_, none) => (.error .isDirectory, place)
  | .ok (parent, some name) =>
    if Path.endsInSlash path || place.root.isDirectoryAt (parent ++ [name]) then
      (.error .isDirectory, place)
    else (.ok (), place.put (parent ++ [name]) (.file content))

/-- Empties a directory that a path leads to by its last dots. It cannot be removed by such a path, unless
the path no longer leads there. -/
def empty (place : Place) (path : String) : Except FileFault Unit × Place :=
  match place.locate path with
  | .error fault => (.error fault, place)
  | .ok location =>
    let emptied := place.put location (.directory [])
    if emptied.isPresent path then (.error (.other "Invalid argument (os error 22)"), emptied)
    else (.ok (), emptied)

def remove (place : Place) (path : String) : Except FileFault Unit × Place :=
  match place.locateLast path with
  | .error fault => (.error fault, place)
  | .ok (_, none) => place.empty path
  | .ok (parent, some name) =>
    let location := parent ++ [name]
    if (place.root.get? location).isNone then (.error .missing, place)
    else if Path.endsInSlash path && !place.root.isDirectoryAt location then
      (.error .notDirectory, place)
    else (.ok (), { place with root := place.root.remove location })

def listing (place : Place) : List (String × Option ByteArray) :=
  match place.root.get? place.current with
  | some (.directory entries) => FileTree.listEntries "" entries
  | _ => []

end Place

/-- A program that only changes a tree. -/
instance : FileAccess (StateM Place) where
  makeDirectory path := fun place => place.makeDirectory path
  isDirectory path := fun place => (place.isDirectory path, place)
  isPresent path := fun place => (place.isPresent path, place)
  read path := fun place => (place.read path, place)
  write path content := fun place => place.write path content

end DownloadSite
