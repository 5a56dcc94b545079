/-!
# Lines, blanks and comments

What stands between the meaningful parts of a settings document. A line ends with a line feed, or a
carriage return and a line feed; `unifyLineEnds?` leaves line feeds only, so that no later rule has to
know of two line ends. Blanks are spaces and tabs. A comment reaches to the end of its line.
-/

namespace DownloadSite.Toml

/-- Takes a value off the front of a text and returns it with the rest. -/
abbrev Reader (alpha : Type) := List Char → Option (alpha × List Char)

/-- Replaces every line end by a single line feed. A carriage return that ends no line is refused. -/
def unifyLineEnds? : List Char → Option (List Char)
  | [] => some []
  | '\r' :: '\n' :: rest => (unifyLineEnds? rest).map ('\n' :: ·)
  | c :: rest => if c = '\r' then none else (unifyLineEnds? rest).map (c :: ·)

/-- Drops the mark of byte order that may stand before a document. -/
def dropByteOrderMark : List Char → List Char
  | [] => []
  | c :: rest => if c = '\ufeff' then rest else c :: rest

/-- May the character stand anywhere in a text? Of the control characters only the tab may. -/
def isTextChar (c : Char) : Bool := c = '\t' || (0x20 ≤ c.toNat && c.toNat ≠ 0x7f)

def isBlank (c : Char) : Bool := c = ' ' || c = '\t'

def skipBlanks (cs : List Char) : List Char := cs.dropWhile isBlank

/-- Drops a comment in front, up to the end of its line. -/
def skipComment : List Char → List Char
  | [] => []
  | c :: rest => if c = '#' then rest.dropWhile isTextChar else c :: rest

/-- What follows a line that has nothing left but blanks and a comment. -/
def endLine? (cs : List Char) : Option (List Char) :=
  match skipComment (skipBlanks cs) with
  | [] => some []
  | c :: rest => if c = '\n' then some rest else none

/-- Drops blanks, line ends and comments in front; the flag tells whether a comment is open. -/
def skipGap (comment : Bool) : List Char → List Char
  | [] => []
  | c :: rest =>
    if c = '\n' then skipGap false rest
    else if comment then
      if isTextChar c then skipGap true rest else c :: rest
    else if isBlank c then skipGap false rest
    else if c = '#' then skipGap true rest
    else c :: rest

end DownloadSite.Toml
