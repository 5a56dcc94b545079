import DownloadSite.Text.Digits
import DownloadSite.Text.Pattern.Mode

/-!
# Escapes

What a backslash and the characters behind it stand for. An escape that depends on a table of Unicode
classes is refused, and so is one that stands for a byte which is no character.
-/

namespace DownloadSite.Text.Pattern

inductive Escape where
  | literal (c : Char)
  /-- A class of characters that has a letter. -/
  | shorthand
  /-- A place between characters. -/
  | place
  deriving DecidableEq, Repr

/-- The character that a letter behind a backslash stands for. -/
def controlEscape? (letter : Char) : Option Char :=
  if letter = 'a' then some '\x07'
  else if letter = 'f' then some '\x0c'
  else if letter = 't' then some '\t'
  else if letter = 'n' then some '\n'
  else if letter = 'r' then some '\r'
  else if letter = 'v' then some '\x0b'
  else none

def hexDigits (mode : Mode) : Nat → List Char → Option (List Char × List Char)
  | 0, cs => some ([], cs)
  | count + 1, cs =>
    match mode.skip cs with
    | [] => none
    | c :: rest =>
      if isDigit 16 c then (hexDigits mode count rest).map fun (digits, rest) => (c :: digits, rest)
      else none

/-- Reads a code point of a given number of digits. Two digits stand for a byte where classes are not
those of Unicode. -/
def codePoint (mode : Mode) (count : Nat) (cs : List Char) : Option (Escape × List Char) :=
  (hexDigits mode count cs).bind fun (digits, rest) =>
    (ofDigits? 16 digits).bind fun n =>
      if n < 0xd800 ∨ (0xdfff < n ∧ n < 0x110000) then
        if mode.unicode ∨ n < 0x80 ∨ count ≠ 2 then some (.literal (Char.ofNat n), rest) else none
      else none

def escape (mode : Mode) : List Char → Option (Escape × List Char)
  | [] => none
  | c :: rest =>
    if c = 'x' then codePoint mode 2 rest
    else if c = 'u' then codePoint mode 4 rest
    else if c = 'U' then codePoint mode 8 rest
    else if c ∈ ['d', 's', 'w'] then if mode.unicode then none else some (.shorthand, rest)
    else if c = 'A' ∨ c = 'z' then some (.place, rest)
    else if c ∈ ['b', 'B', '<', '>'] then if mode.unicode then none else some (.place, rest)
    else if c.isAlphanum then (controlEscape? c).map fun x => (.literal x, rest)
    else if c.toNat < 0x80 then some (.literal c, rest)
    else none

end DownloadSite.Text.Pattern
