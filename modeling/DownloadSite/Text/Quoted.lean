import DownloadSite.Text.Digits
import DownloadSite.Text.Visible

/-!
# Quoted text

A character or a string is shown between quotes, on one line and unambiguously: the backslash and
the quote that delimits are written behind a backslash, five characters have a letter of their own,
and every other character that does not show is written as its code point in braces.
-/

namespace DownloadSite.Text

/-- What a quoted text stands between. -/
inductive Quote where
  | single
  | double
  deriving DecidableEq, Repr

def Quote.char : Quote → Char
  | .single => '\''
  | .double => '"'

/-- The letter that stands for a character behind a backslash. -/
def shortEscape? (c : Char) : Option Char :=
  if c = '\x00' then some '0'
  else if c = '\t' then some 't'
  else if c = '\n' then some 'n'
  else if c = '\r' then some 'r'
  else if c = '\\' then some '\\'
  else none

/-- A code point in lower-case hexadecimal between braces. -/
def codePointEscape (c : Char) : List Char :=
  "\\u\x7b".toList ++ toDigits 16 c.toNat ++ "\x7d".toList

/-- How one character stands between the given quotes. -/
def Quote.escape (quote : Quote) (c : Char) : List Char :=
  match shortEscape? c with
  | some letter => ['\\', letter]
  | none =>
    if c = quote.char then ['\\', c]
    else if shows c then [c]
    else codePointEscape c

def Quote.enclose (quote : Quote) (cs : List Char) : String :=
  String.ofList (quote.char :: cs.flatMap quote.escape ++ [quote.char])

def quoteChar (c : Char) : String := Quote.single.enclose [c]

def quoteString (s : String) : String := Quote.double.enclose s.toList

end DownloadSite.Text
