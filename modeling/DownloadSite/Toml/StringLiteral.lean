import DownloadSite.Text.Digits
import DownloadSite.Toml.Blank

/-!
# String literals

A string stands between double quotes, where a backslash begins an escape, or between single quotes,
where every character stands for itself. Between three quotes it may have several lines: a line end
right behind the opening quotes does not count, up to two quotes may stand before the closing ones, and
a backslash at the end of a line of an escaped string drops the line end with all blanks and line ends
behind it.
-/

namespace DownloadSite.Toml

def prepend (c : Char) (found : Option (List Char × List Char)) : Option (List Char × List Char) :=
  found.map fun (cs, rest) => (c :: cs, rest)

def unescape? (letter : Char) : Option Char :=
  if letter = 'b' then some '\x08'
  else if letter = 't' then some '\t'
  else if letter = 'n' then some '\n'
  else if letter = 'f' then some '\x0c'
  else if letter = 'r' then some '\r'
  else if letter = '"' then some '"'
  else if letter = '\\' then some '\\'
  else none

def codePoint? (digits : List Char) : Option Char :=
  (Text.ofDigits? 16 digits).bind fun n =>
    if n < 0xd800 ∨ (0xdfff < n ∧ n < 0x110000) then some (Char.ofNat n) else none

/-- Does the string reach over several lines? -/
inductive Extent where
  | line
  | lines
  deriving DecidableEq, Repr

/-- What follows a string, once the first of its closing quotes is read, and the quotes that belong to
the string before the closing ones. -/
def Extent.close? (extent : Extent) (quote : Char) (rest : List Char) :
    Option (List Char × List Char) :=
  match extent with
  | .line => some ([], rest)
  | .lines =>
    match rest with
    | a :: b :: rest =>
      if a = quote ∧ b = quote then
        let own := (rest.take 2).takeWhile (· = quote)
        some (own, rest.drop own.length)
      else none
    | _ => none

/-- Where an escaped string stands with respect to a backslash at the end of a line. -/
inductive Fold where
  /-- Characters count. -/
  | none
  /-- Behind the backslash: blanks are dropped, and a line end has to follow. -/
  | begun
  /-- On the lines after it: blanks and line ends are dropped. -/
  | done
  deriving DecidableEq, Repr

/-- Reads an escaped string behind its opening quotes. -/
def escapedBody (extent : Extent) : Fold → Reader (List Char)
  | _, [] => none
  | fold, c :: rest =>
    if fold = .begun then
      if c = '\n' then escapedBody extent .done rest
      else if isBlank c then escapedBody extent .begun rest
      else none
    else if fold = .done ∧ (isBlank c ∨ c = '\n') then escapedBody extent .done rest
    else if c = '"' then
      match extent.close? '"' rest with
      | some found => some found
      | none => prepend '"' (escapedBody extent .none rest)
    else if c = '\\' then
      match rest with
      | [] => none
      | letter :: rest =>
        if letter = 'u' then
          match rest with
          | d1 :: d2 :: d3 :: d4 :: rest =>
            (codePoint? [d1, d2, d3, d4]).bind fun x =>
              prepend x (escapedBody extent .none rest)
          | _ => none
        else if letter = 'U' then
          match rest with
          | d1 :: d2 :: d3 :: d4 :: d5 :: d6 :: d7 :: d8 :: rest =>
            (codePoint? [d1, d2, d3, d4, d5, d6, d7, d8]).bind fun x =>
              prepend x (escapedBody extent .none rest)
          | _ => none
        else if extent = .lines ∧ letter = '\n' then escapedBody extent .done rest
        else if extent = .lines ∧ isBlank letter then escapedBody extent .begun rest
        else (unescape? letter).bind fun x => prepend x (escapedBody extent .none rest)
    else if isTextChar c ∨ (extent = .lines ∧ c = '\n') then
      prepend c (escapedBody extent .none rest)
    else none

/-- Reads a literal string behind its opening quotes. -/
def literalBody (extent : Extent) : Reader (List Char)
  | [] => none
  | c :: rest =>
    if c = '\'' then
      match extent.close? '\'' rest with
      | some found => some found
      | none => prepend '\'' (literalBody extent rest)
    else if isTextChar c ∨ (extent = .lines ∧ c = '\n') then
      prepend c (literalBody extent rest)
    else none

/-- Drops the line end that may stand right behind three opening quotes. -/
def dropFirstLineEnd : List Char → List Char
  | [] => []
  | c :: rest => if c = '\n' then rest else c :: rest

def lineString : Reader (List Char)
  | [] => none
  | c :: rest =>
    if c = '"' then escapedBody .line .none rest
    else if c = '\'' then literalBody .line rest
    else none

def string : Reader (List Char)
  | '"' :: '"' :: '"' :: rest => escapedBody .lines .none (dropFirstLineEnd rest)
  | '\'' :: '\'' :: '\'' :: rest => literalBody .lines (dropFirstLineEnd rest)
  | cs => lineString cs

end DownloadSite.Toml
