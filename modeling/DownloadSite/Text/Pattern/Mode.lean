import DownloadSite.Text.Whitespace

/-!
# Modes of expressions

How an expression is read: what its classes are about, whether upper and lower case are told apart, and
whether it may be spaced out and commented.
-/

namespace DownloadSite.Text.Pattern

structure Mode where
  /-- Classes and word boundaries are those of Unicode, not of ASCII. -/
  unicode : Bool := true
  /-- Upper and lower case are not told apart. -/
  anyCase : Bool := false
  /-- White space and comments do not count. -/
  spaced : Bool := false
  deriving DecidableEq, Repr

/-! ### Space and comments -/

/-- Drops white space and comments in front; the flag tells whether a comment is open. -/
def skipSpace (comment : Bool) : List Char → List Char
  | [] => []
  | c :: rest =>
    if comment then skipSpace (c ≠ '\n') rest
    else if isSpace c then skipSpace false rest
    else if c = '#' then skipSpace true rest
    else c :: rest

/-- What is left to read once all that does not count is dropped. -/
def Mode.skip (mode : Mode) (cs : List Char) : List Char :=
  if mode.spaced then skipSpace false cs else cs

/-- The character that decides whether a dash before the text makes a range. White space does not count
in a spaced expression, nor does the sign that opens a comment, but the comment does. -/
def Mode.behindDash (mode : Mode) (cs : List Char) : Option Char :=
  if mode.spaced then
    let rest := trimFront cs
    if rest.head? = some '#' then (trimFront (rest.drop 1)).head? else rest.head?
  else cs.head?

/-! ### Characters -/

/-- May characters stand for themselves? To find those that differ in case only takes a table, which
is at hand for ASCII alone. -/
def Mode.admitsLiteral (mode : Mode) : Bool := !(mode.unicode && mode.anyCase)

/-- May a class hold the character? A class of bytes holds ASCII alone. -/
def Mode.admitsMember (mode : Mode) (c : Char) : Bool :=
  mode.admitsLiteral && (mode.unicode || c.toNat < 0x80)

end DownloadSite.Text.Pattern
