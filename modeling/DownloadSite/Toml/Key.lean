import DownloadSite.Toml.StringLiteral

/-!
# Keys

A key is one name or several joined by dots, with blanks allowed around each. A name is a row of ASCII
letters, digits, underscores and dashes, or a string of one line.
-/

namespace DownloadSite.Toml

/-- A key: the names of the tables that it leads through, and the name in the last of them. -/
structure Key where
  parents : List String
  last : String
  deriving DecidableEq, Repr

def isBareChar (c : Char) : Bool := c.isAlphanum || c = '_' || c = '-'

def keyName : Reader String
  | [] => none
  | c :: rest =>
    if c = '"' ∨ c = '\'' then
      (lineString (c :: rest)).map fun (cs, rest) => (String.ofList cs, rest)
    else if isBareChar c then
      some (String.ofList (c :: rest.takeWhile isBareChar), rest.dropWhile isBareChar)
    else none

/-- Reads a key of at most the given number of names, with the blanks around it. -/
def keyUpTo : Nat → Reader Key
  | 0, _ => none
  | limit + 1, cs =>
    (keyName (skipBlanks cs)).bind fun (name, rest) =>
      match skipBlanks rest with
      | [] => some (⟨[], name⟩, [])
      | c :: rest =>
        if c = '.' then
          (keyUpTo limit rest).map fun (key, rest) => (⟨name :: key.parents, key.last⟩, rest)
        else some (⟨[], name⟩, c :: rest)

/-- How deep a document may nest: the most names of a key, and the most lists and tables around a
value. -/
def maxDepth : Nat := 79

def key : Reader Key := keyUpTo maxDepth

end DownloadSite.Toml
