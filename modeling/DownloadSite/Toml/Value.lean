import DownloadSite.Toml.Key
import DownloadSite.Toml.Node
import DownloadSite.Toml.Number

/-!
# Values

A value is a string, a word such as a number, a truth value or a moment, a list in brackets, or a table
in braces. Lists may reach over several lines and end with a comma; tables in braces may not.
-/

namespace DownloadSite.Toml

def isWordChar (c : Char) : Bool :=
  c.isAlphanum || c = '_' || c = '+' || c = '-' || c = '.' || c = ':'

def wordValue? (word : List Char) : Option Node :=
  if word = "true".toList then some (.boolean true)
  else if word = "false".toList then some (.boolean false)
  else
    match integer? word with
    | some n => some (.integer n)
    | none =>
      match float? word with
      | some x => some (.float x)
      | none => (moment? word).map .moment

/-- Joins a date with the time that may follow it behind a space. -/
def spacedMoment? (date : Date) : List Char → Option (Moment × List Char)
  | [] => none
  | c :: rest =>
    if c = ' ' then
      (timeAndOffset? (rest.takeWhile isWordChar)).map fun (time, offset) =>
        ({ date := some date, time := some time, offset }, rest.dropWhile isWordChar)
    else none

/-- Reads the value that a word stands for; a date may be followed by a space and a time. -/
def word (cs : List Char) : Option (Node × List Char) :=
  let token := cs.takeWhile isWordChar
  let rest := cs.dropWhile isWordChar
  match (date? token).bind fun date => spacedMoment? date rest with
  | some (moment, rest) => some (.moment moment, rest)
  | none => (wordValue? token).map fun node => (node, rest)

/-- Reads a value that contains no other. -/
def simpleValue (cs : List Char) : Option (Node × List Char) :=
  match cs with
  | [] => none
  | c :: _ =>
    if c = '"' ∨ c = '\'' then
      (string cs).map fun (content, rest) => (.text (String.ofList content), rest)
    else word cs

/-- Reads the items of a list behind its opening bracket. The number bounds how many. -/
def items (item : Reader Node) : Nat → Reader (List Node)
  | 0, _ => none
  | fuel + 1, cs =>
    match skipGap false cs with
    | [] => none
    | c :: rest =>
      if c = ']' then some ([], rest)
      else
        (item (c :: rest)).bind fun (node, rest) =>
          match skipGap false rest with
          | [] => none
          | c :: rest =>
            if c = ',' then (items item fuel rest).map fun (nodes, rest) => (node :: nodes, rest)
            else if c = ']' then some ([node], rest)
            else none

def pair (value : Reader Node) : Reader (Key × Node) := fun cs =>
  (key cs).bind fun (key, rest) =>
    match rest with
    | [] => none
    | c :: rest =>
      if c = '=' then (value (skipBlanks rest)).map fun (node, rest) => ((key, node), rest)
      else none

/-- Reads the pairs of a table in braces and enters them. The number bounds how many. -/
def pairs (value : Reader Node) : Nat → Entries → Reader Entries
  | 0, _, _ => none
  | fuel + 1, entries, cs =>
    (pair value cs).bind fun ((key, node), rest) =>
      (assign key.last node key.parents entries).bind fun entries =>
        match skipBlanks rest with
        | [] => none
        | c :: rest =>
          if c = ',' then pairs value fuel entries rest
          else if c = '\x7d' then some (entries, rest)
          else none

def inlineTable (value : Reader Node) (cs : List Char) : Option (Entries × List Char) :=
  match skipBlanks cs with
  | [] => none
  | c :: rest =>
    if c = '\x7d' then some ([], rest) else pairs value (cs.length + 1) [] (c :: rest)

/-- Reads a value that may have lists and tables nested to the given depth. -/
def valueUpTo : Nat → Reader Node
  | 0, cs => simpleValue cs
  | depth + 1, cs =>
    match cs with
    | [] => none
    | c :: rest =>
      if c = '[' then
        (items (valueUpTo depth) (rest.length + 1) rest).map fun (nodes, rest) =>
          (.array nodes, rest)
      else if c = '\x7b' then
        (inlineTable (valueUpTo depth) rest).map fun (entries, rest) =>
          (.table .inline entries, rest)
      else simpleValue (c :: rest)

def value : Reader Node := valueUpTo maxDepth

end DownloadSite.Toml
